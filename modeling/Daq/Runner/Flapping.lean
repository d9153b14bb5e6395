import Daq.Runner.CommandSimulation

namespace Daq

/-! A port that is down too long fails the device on it.  The start of the
flapping lives in a port info that outlives the device and is reset in several
places; against the history it always stands for an event that nothing has
undone since. -/

namespace Happening

/-- The port went down, or its session ended, at this time. -/
def Downs (info : PortId) (time : Nat) (happening : Happening) : Prop :=
  happening = .portDown info time ∨ happening = .sessionEnded info time

/-- The port came up, or a session for it was accepted. -/
def Ups (info : PortId) (happening : Happening) : Prop :=
  happening = .portUp info ∨ happening = .sessionStarted info

end Happening

/-- The port went down at this time and has not come up since. -/
def DownSince (info : PortId) (time : Nat) : List Happening → Prop :=
  History.Since (Happening.Downs info time) (Happening.Ups info)

/-- A reaped device's port has been down for the timeout. -/
def ReapsOverdue (before : List Happening) (happening : Happening) : Prop :=
  ∀ device info time timeoutSec, happening = .reaped device info time timeoutSec →
    ∃ start, start + timeoutSec ≤ time ∧ DownSince info start before

structure Ledger.FlapsTraced (ledger : Ledger) : Prop where
  down : ∀ info, Truthy (ledger.flapping info) →
    DownSince info ((ledger.flapping info).getD 0) ledger.trail
  reaped : History.Always ReapsOverdue ledger.trail

namespace Ledger.FlapsTraced

variable {ledger : Ledger}

theorem initial (native : Bool) : (Ledger.initial native).FlapsTraced where
  down := fun _ flapping => absurd rfl flapping
  reaped := History.always_nil

/-- Whatever else happens leaves the ports alone. -/
theorem noted (traced : ledger.FlapsTraced) {after : Ledger} {notes : List Happening}
    (flapping : after.flapping = ledger.flapping) (trail : after.trail = ledger.trail ++ notes)
    (quiet : ∀ note ∈ notes, ∀ info, ¬ note.Ups info)
    (unreaped : ∀ note ∈ notes, ∀ device info time timeoutSec,
      note ≠ .reaped device info time timeoutSec) : after.FlapsTraced where
  down := by
    intro info flaps
    rw [flapping] at flaps ⊢
    rw [trail]
    exact (traced.down info flaps).append fun note member => quiet note member info
  reaped := by
    rw [trail, History.always_append]
    refine ⟨traced.reaped, fun before note later split device info time timeoutSec same => ?_⟩
    exact absurd same (unreaped note (split ▸ List.mem_append_right _ (.head _)) _ _ _ _)

theorem flapped (traced : ledger.FlapsTraced) {info : PortId} {time : Nat} {note : Happening}
    (cause : note = .portDown info time ∨ note = .sessionEnded info time) :
    ({ ledger with
      flapping := Function.update ledger.flapping info (some time)
      trail := ledger.trail ++ [note] } : Ledger).FlapsTraced where
  down := by
    intro other flaps
    by_cases same : other = info
    · subst same
      simp only [Function.update_self, Option.getD_some]
      exact History.since_concat.mpr (.inl cause)
    · simp only [Function.update_of_ne same] at flaps ⊢
      refine History.since_concat.mpr (.inr ⟨traced.down other flaps, ?_⟩)
      rcases cause with rfl | rfl <;> simp [Happening.Ups]
  reaped := by
    refine History.always_concat.mpr ⟨traced.reaped, fun device other now timeoutSec same => ?_⟩
    rcases cause with rfl | rfl <;> cases same

theorem settled (traced : ledger.FlapsTraced) {info : PortId} {value : Option Nat}
    {notes : List Happening} (steady : ¬ Truthy value)
    (cause : notes = [] ∨ notes = [.portUp info] ∨ notes = [.sessionStarted info]) :
    ({ ledger with
      flapping := Function.update ledger.flapping info value
      trail := ledger.trail ++ notes } : Ledger).FlapsTraced where
  down := by
    intro other flaps
    have different : other ≠ info := by
      rintro rfl
      simp only [Function.update_self] at flaps
      exact steady flaps
    simp only [Function.update_of_ne different] at flaps ⊢
    refine (traced.down other flaps).append ?_
    rcases cause with rfl | rfl | rfl <;> simp [Happening.Ups, Ne.symm different]
  reaped := by
    refine History.always_append.mpr ⟨traced.reaped, ?_⟩
    rintro before note later split device other now timeoutSec rfl
    have member : Happening.reaped device other now timeoutSec ∈ notes :=
      split ▸ List.mem_append_right _ (.head _)
    rcases cause with rfl | rfl | rfl <;> simp at member

theorem justified (traced : ledger.FlapsTraced) {device : DeviceId} {info : PortId}
    {time timeoutSec : Nat} (flapping : Truthy (ledger.flapping info))
    (overdue : (ledger.flapping info).getD 0 + timeoutSec ≤ time) :
    ({ ledger with trail := ledger.trail ++ [.reaped device info time timeoutSec] } :
      Ledger).FlapsTraced where
  down := by
    intro other flaps
    exact History.since_concat.mpr (.inr ⟨traced.down other flaps, by simp [Happening.Ups]⟩)
  reaped := by
    refine History.always_concat.mpr ⟨traced.reaped, ?_⟩
    rintro _ _ _ _ ⟨⟩
    exact ⟨_, overdue, traced.down info flapping⟩

theorem step {config : Config} {reaps : Mac → Prop} {before after : Ledger}
    (step : Step config reaps before after) (traced : before.FlapsTraced) :
    after.FlapsTraced := by
  cases step with
  | flap info time note _ cause => exact traced.flapped cause
  | settle info value notes steady cause => exact traced.settled steady cause
  | reap device info time timeoutSec flapping overdue => exact traced.justified flapping overdue
  | suppress | converse | leave =>
      exact traced.noted rfl (List.append_nil _).symm (fun _ => nofun) fun _ => nofun
  | finalize | trigger | enqueue | consider | cancel | create | openUp | giveBack | attach
  | detach | terminate | retire =>
      exact traced.noted rfl rfl (by simp [Happening.Ups]) (by simp)

end Ledger.FlapsTraced

/-! Whoever handles an event that a port came up, or accepts a session for one,
notes it: what is not in the history did not happen. -/

theorem Ledger.Step.prefix_trail {config : Config} {reaps : Mac → Prop} {before after : Ledger}
    (step : Ledger.Step config reaps before after) : before.trail <+: after.trail := by
  cases step with
  | suppress | converse | leave => exact List.prefix_rfl
  | finalize | trigger | enqueue | consider | cancel | create | openUp | giveBack | attach
  | detach | terminate | retire | flap | settle | reap => exact List.prefix_append _ _

section Noted

variable {env : Env} {reaps : Mac → Prop} {drain : Run Unit} {world : World}

theorem prefix_trail_of_steps {config : Config} {before after : Ledger}
    (steps : Relation.ReflTransGen (Ledger.Step config reaps) before after) :
    before.trail <+: after.trail := by
  induction steps with
  | refl => exact List.prefix_rfl
  | tail _ step earlier => exact earlier.trans step.prefix_trail

theorem activatePort_notes (port : Nat) :
    (activatePort port).Holds world (fun outcome after => outcome = .ok () ∧
      ∃ info, after.ports.get? port = some info ∧
        (∀ known, world.ports.get? port = some known → known = info) ∧
        after.trail = world.trail ++ [.portUp info]) := by
  unfold activatePort
  rw [Exec.holds_bind, Exec.holds_read, Exec.then_ok]
  cases stored : world.ports.get? port with
  | none =>
      exact Exec.holds_modify.mpr ⟨rfl, world.nextPort, Dict.get?_insert_self _ _ _, nofun, rfl⟩
  | some info =>
      exact Exec.holds_modify.mpr ⟨rfl, info, stored, fun _ same => (Option.some.inj same).symm, rfl⟩

/-- The event of a device port that came up. -/
theorem handlePortState_notes {dpid port : Nat} (device : IsDevicePort env dpid port)
    (other : ¬ IsSystemPort dpid port) :
    (handlePortState env drain dpid port true).Holds world (fun _ after =>
      ∃ info, (∀ known, world.ports.get? port = some known → known = info) ∧
        world.trail ++ [.portUp info] <+: after.trail) := by
  unfold handlePortState
  rw [Exec.holds_bind, Exec.holds_get, Exec.then_ok, if_neg other, Exec.holds_when]
  refine ⟨fun _ => ?_, fun absent => absurd device absent⟩
  rw [Exec.holds_bind, Exec.holds_when]
  refine ⟨fun _ => ?_, fun impossible => absurd rfl impossible⟩
  refine (activatePort_notes port).mono ?_
  rintro _ middle ⟨rfl, info, _, known, noted⟩
  have rest : (do
      Exec.when (true = false) <| Exec.whenSome (world.ports.get? port) (handlePortDown env port)
      sendHeartbeat env : Run Unit).Within (posts env fun _ => True) :=
    Exec.within_bind (Exec.within_when (Exec.within_whenSome _ fun info =>
      handlePortDown_posts port info)) fun _ => sendHeartbeat_posts
  rw [Exec.then_ok]
  exact (rest.holds middle).mono fun _ _ posted =>
    ⟨info, known, noted ▸ prefix_trail_of_steps posted⟩

/-- A session of a device that is accepted. -/
theorem remoteTrigger_notes (drained : drain.Within (posts env reaps)) (device : DeviceId)
    {deviceVlan assignedVlan : Option Nat} (vlans : Truthy deviceVlan ∧ Truthy assignedVlan) :
    (remoteTrigger env drain device deviceVlan assignedVlan).Holds world (fun _ after =>
      world.trail ++ [.sessionStarted (world.device device).port] <+: after.trail) := by
  unfold remoteTrigger
  rw [Exec.holds_bind, Exec.holds_require]
  refine ⟨fun _ => ?_, fun refused => absurd vlans refused⟩
  rw [Exec.then_ok, Exec.holds_bind, Exec.holds_read, Exec.then_ok, Exec.holds_bind,
    Exec.holds_modify, Exec.then_ok]
  have rest : (do
      Exec.modify fun world => world.setDevice device fun entry =>
        { entry with vlan := deviceVlan, assigned := assignedVlan }
      targetSetTrigger env drain device true
      let world ← Exec.get
      Exec.whenSome (world.device device).gateway fun gateway =>
        directDeviceTraffic env device (some (world.gateways gateway).portSet.val) :
      Run Unit).Within (posts env reaps) := by
    refine Exec.within_bind (within_quiet fun _ => rfl) fun _ => ?_
    refine Exec.within_bind (targetSetTrigger_posts drained device true) fun _ => ?_
    refine Exec.within_bind Exec.within_get fun _ => Exec.within_whenSome _ fun _ => ?_
    exact topologyOnly_posts (directDeviceTraffic_topologyOnly _ _)
  exact (rest.holds _).mono fun _ _ posted => prefix_trail_of_steps posted

end Noted

/-- For every run: a device is failed for its port only when a down event of the
port, or the end of a session for it, lies back at least the timeout, and the
port has not come up, nor a session for it been accepted, since. -/
theorem reaped_port_down {env : Env} {world : World} (reached : Started env world)
    {before after : List Happening} {device : DeviceId} {info : PortId} {time timeoutSec : Nat}
    (reaped : world.trail = before ++ .reaped device info time timeoutSec :: after) :
    ∃ start first down since, before = first ++ down :: since ∧
      (down = .portDown info start ∨ down = .sessionEnded info start) ∧
      start + timeoutSec ≤ time ∧
      Happening.portUp info ∉ since ∧ Happening.sessionStarted info ∉ since := by
  have traced : world.ledger.FlapsTraced :=
    started_ledger Ledger.FlapsTraced .initial (fun _ _ step => .step step) reached
  obtain ⟨start, overdue, first, down, since, split, cause, quiet⟩ :=
    traced.reaped before _ after reaped device info time timeoutSec rfl
  refine ⟨start, first, down, since, split, cause, overdue, fun up => ?_, fun started => ?_⟩
  · exact quiet _ up (.inl rfl)
  · exact quiet _ started (.inr rfl)

/-- Every environment call takes a second. -/
def Env.aging (config : Config) : Env :=
  { Env.quiet config with
    now := fun world => world.tick + 1
    now_pos := fun _ => Nat.succ_pos _ }

/-- A device is learned on port 1 and activated; the port goes down and is
found to be down too long. -/
def downTooLong : World :=
  ([.receive (.event (.portState 1 1 true)), .receive (.event (.portState 2 1 true)),
    .receive (.event (.portLearn 2 1 "9a:02:57:1e:8f:01" 10)), .faucet,
    .receive (.event (.portState 2 1 false)), .faucet, .idle, .reap] : List Command).foldl
      (fun state command => command.step (.aging { secPort := 7, portFlapTimeoutSec := 2 }) state)
      (startWorld (.aging { secPort := 7, portFlapTimeoutSec := 2 }))

theorem downTooLong_port_down : ∃ start first down since,
    downTooLong.trail.take 8 = first ++ down :: since ∧
      (down = .portDown 0 start ∨ down = .sessionEnded 0 start) ∧ start + 2 ≤ 11 ∧
      Happening.portUp 0 ∉ since ∧ Happening.sessionStarted 0 ∉ since := by
  have reached : Started (.aging { secPort := 7, portFlapTimeoutSec := 2 }) downTooLong :=
    Reaches.foldl (fun _ _ => trivial) _
  have reaped : downTooLong.trail = downTooLong.trail.take 8 ++
      .reaped 0 0 11 2 :: downTooLong.trail.drop 9 := by decide +kernel
  exact reaped_port_down reached reaped

end Daq
