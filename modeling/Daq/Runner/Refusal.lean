import Daq.Runner.CommandSimulation

namespace Daq

/-! A session that is refused.  Its client is registered before the runner is
asked, and only the stream of an accepted session takes a client away again. -/

section Persistence

/-- Only the end of its own session takes a client away. -/
theorem Ledger.Step.keeps_session {config : Config} {reaps : Mac → Prop} {mac : Mac}
    (unreaped : ¬ reaps mac) {before after : Ledger} (step : Ledger.Step config reaps before after)
    (present : before.sessions.get? mac ≠ none) : after.sessions.get? mac ≠ none := by
  cases step with
  | converse sessions kept => exact kept mac present
  | leave other reaped =>
      have apart : mac ≠ other := by
        rintro rfl
        exact unreaped reaped
      rw [Dict.get?_erase, if_neg apart]
      exact present
  | _ => exact present

variable {env : Env} {mac : Mac}

theorem posts_keeps_session {before after : World}
    (posted : (posts env (· ≠ mac)).rel before after) (present : before.sessions.get? mac ≠ none) :
    after.sessions.get? mac ≠ none := by
  have kept : ∀ final,
      Relation.ReflTransGen (Ledger.Step env.config (· ≠ mac)) before.ledger final →
      final.sessions.get? mac ≠ none := by
    intro final posted
    induction posted with
    | refl => exact present
    | tail _ last earlier => exact last.keeps_session (fun apart => apart rfl) earlier
  exact kept after.ledger posted

theorem runCommands_keeps_session (commands : List Command) {world : World}
    (streaming : .endSession mac ∉ commands) (present : world.sessions.get? mac ≠ none) :
    (runCommands env commands world).sessions.get? mac ≠ none := by
  induction commands generalizing world with
  | nil => exact present
  | cons command rest later =>
      have reaped : ∀ other, command = .endSession other → other ≠ mac := by
        rintro other rfl rfl
        exact streaming (.head _)
      have kept : (command.step env world).sessions.get? mac ≠ none :=
        posts_keeps_session (perform_posts command reaped world) present
      exact later (fun member => streaming (.tail _ member)) kept

end Persistence

section Refused

variable {env : Env} {mac : Mac} {deviceVlan assignedVlan : Option Nat} {remoteIp : String}

theorem initSession_registered {world : World} (present : world.sessions.get? mac ≠ none) :
    (initSession env (handleReceivedEvents env) mac deviceVlan assignedVlan remoteIp).run world =
      (.error (.assertionError ("already registered " ++ mac)), world) := by
  unfold initSession
  rw [Exec.read_bind_run]
  exact Exec.require_bind_run_not _ _ present

theorem initSession_registers {world after : World} {outcome : Except Exc Unit}
    (absent : world.sessions.get? mac = none)
    (answered : (initSession env (handleReceivedEvents env) mac deviceVlan assignedVlan
      remoteIp).run world = (outcome, after)) : after.sessions.get? mac ≠ none := by
  unfold initSession at answered
  rw [Exec.read_bind_run, Exec.require_bind_run _ _ absent, Exec.modify_bind_run] at answered
  have greeted : (world.sessions.insert mac [.endpoint, .result .started]).get? mac ≠ none := by
    rw [Dict.get?_insert, if_pos rfl]
    exact Option.some_ne_none _
  have posted := @onSession_posts env (· ≠ mac) _ handleReceivedEvents_posts mac deviceVlan
    assignedVlan remoteIp
    { world with sessions := world.sessions.insert mac [.endpoint, .result .started] }
  rw [answered] at posted
  exact posts_keeps_session posted greeted

/-- The server has no client for the MAC, and the other clients are as they
were. -/
def TakenBack (mac : Mac) (before after : World) : Prop :=
  after.sessions.get? mac = none ∧
    ∀ other, other ≠ mac → after.sessions.get? other = before.sessions.get? other

/-- A session that is refused is never taken back: its client stays, and until a
stream of it ends, which was never started, every further request for the MAC is
refused as registered already. -/
theorem refused_session_stays {world after : World} {raised : Exc}
    (absent : world.sessions.get? mac = none)
    (refused : (initSession env (handleReceivedEvents env) mac deviceVlan assignedVlan
      remoteIp).run world = (.error raised, after)) :
    ¬ TakenBack mac world after ∧
      ∀ commands, .endSession mac ∉ commands → ∀ deviceVlan assignedVlan remoteIp,
        (initSession env (handleReceivedEvents env) mac deviceVlan assignedVlan remoteIp).run
            (runCommands env commands after) =
          (.error (.assertionError ("already registered " ++ mac)),
            runCommands env commands after) := by
  have registered := initSession_registers absent refused
  refine ⟨fun taken => registered taken.1, fun commands streaming _ _ _ => ?_⟩
  exact initSession_registered (runCommands_keeps_session commands streaming registered)

end Refused

namespace Refusal

def config : Config := { secPort := 7, vlanTrigger := true, deviceReporting := true }

/-- The server after a request without VLANs. -/
def withoutVlans : World :=
  ((Command.startSession "9a:02:57:1e:8f:01" none none "10.0.0.1").perform (.quiet config)).run
    (startWorld (.quiet config)) |>.2

theorem withoutVlans_stays :
    ¬ TakenBack "9a:02:57:1e:8f:01" (startWorld (.quiet config)) withoutVlans ∧
      (initSession (.quiet config) (handleReceivedEvents (.quiet config)) "9a:02:57:1e:8f:01"
          (some 10) (some 20) "10.0.0.1").run (runCommands (.quiet config) [.idle] withoutVlans) =
        (.error (.assertionError "already registered 9a:02:57:1e:8f:01"),
          runCommands (.quiet config) [.idle] withoutVlans) := by
  have refused : (initSession (.quiet config) (handleReceivedEvents (.quiet config))
      "9a:02:57:1e:8f:01" none none "10.0.0.1").run (startWorld (.quiet config)) =
      (.error (.assertionError "expected both device_ and assigned_ vlans"), withoutVlans) := rfl
  obtain ⟨kept, later⟩ := refused_session_stays rfl refused
  exact ⟨kept, later [.idle] (by simp) (some 10) (some 20) "10.0.0.1"⟩

/-- A request without an endpoint address is refused, and its client stays. -/
theorem refused_session_not_retried :
    ¬ ∀ (env : Env) (world after : World) (mac : Mac) (deviceVlan assignedVlan : Option Nat)
        (remoteIp : String) (raised : Exc),
      world.sessions.get? mac = none →
      (initSession env (handleReceivedEvents env) mac deviceVlan assignedVlan remoteIp).run world =
        (.error raised, after) →
      TakenBack mac world after := by
  intro claimed
  have taken := claimed (.quiet config) (startWorld (.quiet config)) _ "9a:02:57:1e:8f:01"
    (some 10) (some 20) "" _ rfl rfl
  exact absurd taken.1 (by decide +kernel)

end Refusal

end Daq
