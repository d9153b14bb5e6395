import Daq.Session.Invariant

namespace Daq.Session

/-! What the clients of the session server receive. -/

def runAll (commands : List Command) (server : Server) : Server :=
  commands.foldl (fun server command => command.step server) server

/-! A stream that ends is always able to leave. -/

theorem goto_stage (server : Server) (call : Nat) (stage : Stage) :
    ((server.goto call stage).calls call).stage = stage := by
  unfold Server.goto
  dsimp only
  rw [Function.update_self]

theorem goto_other {server : Server} {call other : Nat} (stage : Stage) (apart : other ≠ call) :
    (server.goto call stage).calls other = server.calls other := by
  unfold Server.goto
  dsimp only
  rw [Function.update_of_ne apart]

theorem leaves_reapUnlock {server : Server} {call : Nat}
    (at_ : (server.calls call).stage = .reapUnlock) :
    ∃ commands, ((runAll commands server).calls call).stage = .finished := by
  refine ⟨[.advance call 0], ?_⟩
  change ((server.advance call 0).calls call).stage = _
  unfold Server.advance
  rw [at_]
  exact goto_stage _ call .finished

theorem leaves_delete {server : Server} (sound : Sound server) {call : Nat}
    (at_ : (server.calls call).stage = .delete) :
    ∃ commands, ((runAll commands server).calls call).stage = .finished := by
  have next : ((server.advance call 0).calls call).stage = .reapUnlock := by
    unfold Server.advance
    rw [at_]
    dsimp only [Server.delete]
    rw [(sound.held call).own (by rw [at_]; rfl)]
    exact goto_stage _ call .reapUnlock
  obtain ⟨commands, done⟩ := leaves_reapUnlock next
  exact ⟨.advance call 0 :: commands, done⟩

theorem leaves_notifyEnd {server : Server} (sound : Sound server) {call : Nat}
    (at_ : (server.calls call).stage = .notifyEnd) :
    ∃ commands, ((runAll commands server).calls call).stage = .finished := by
  have next : ((server.advance call 0).calls call).stage = .delete := by
    unfold Server.advance
    rw [at_]
    dsimp only [Server.notifyEnd]
    rw [(sound.held call).own (by rw [at_]; rfl)]
    exact goto_stage _ call .delete
  obtain ⟨commands, done⟩ := leaves_delete (sound.advance call 0) next
  exact ⟨.advance call 0 :: commands, done⟩

theorem leaves_unlocked {server : Server} (sound : Sound server) {call : Nat}
    (at_ : (server.calls call).stage = .reapLock) (free : server.lock = none) :
    ∃ commands, ((runAll commands server).calls call).stage = .finished := by
  have next : ((server.advance call 0).calls call).stage = .notifyEnd := by
    unfold Server.advance
    rw [at_]
    dsimp only [Server.acquire]
    rw [if_pos free]
    exact goto_stage _ call .notifyEnd
  obtain ⟨commands, done⟩ := leaves_notifyEnd (sound.advance call 0) next
  exact ⟨.advance call 0 :: commands, done⟩

/-- How many steps a call holds on to the lock. -/
def holds : Stage → Nat
  | .check | .notifyEnd => 3
  | .insert | .delete => 2
  | _ => 1

/-- The call that has the lock goes on and gives it back before long. -/
theorem holder_advances {server : Server} (sound : Sound server) {holder : Nat}
    (locked : server.lock = some holder) :
    (∀ other, other ≠ holder →
        (server.advance holder 0).calls other = server.calls other) ∧
      ((server.advance holder 0).lock = none ∨ (server.advance holder 0).lock = some holder ∧
        holds ((server.advance holder 0).calls holder).stage <
          holds (server.calls holder).stage) := by
  have critical := sound.holder holder locked
  have held := sound.held holder
  unfold Server.advance
  dsimp only
  cases at_ : (server.calls holder).stage with
  | check =>
      dsimp only
      split
      · refine ⟨fun other apart => goto_other _ apart, .inr ⟨locked, ?_⟩⟩
        rw [goto_stage]
        decide
      · refine ⟨fun other apart => goto_other _ apart, .inr ⟨locked, ?_⟩⟩
        rw [goto_stage]
        decide
  | refuse => exact ⟨fun other apart => goto_other _ apart, .inl rfl⟩
  | insert =>
      refine ⟨fun other apart => goto_other _ apart, .inr ⟨locked, ?_⟩⟩
      rw [goto_stage]
      decide
  | unlock => exact ⟨fun other apart => goto_other _ apart, .inl rfl⟩
  | notifyEnd =>
      dsimp only [Server.notifyEnd]
      rw [held.own (by rw [at_]; rfl)]
      refine ⟨fun other apart => goto_other _ apart, .inr ⟨locked, ?_⟩⟩
      dsimp only
      rw [goto_stage]
      decide
  | delete =>
      dsimp only [Server.delete]
      rw [held.own (by rw [at_]; rfl)]
      refine ⟨fun other apart => goto_other _ apart, .inr ⟨locked, ?_⟩⟩
      dsimp only
      rw [goto_stage]
      decide
  | reapUnlock => exact ⟨fun other apart => goto_other _ apart, .inl rfl⟩
  | _ =>
      rw [at_] at critical
      cases critical

theorem leaves_locked {server : Server} (sound : Sound server) {call holder : Nat}
    (at_ : (server.calls call).stage = .reapLock) (locked : server.lock = some holder) :
    ∃ commands, ((runAll commands server).calls call).stage = .finished := by
  have apart : call ≠ holder := by
    intro same
    have critical := sound.holder holder locked
    rw [← same, at_] at critical
    cases critical
  obtain ⟨others, released | ⟨still, less⟩⟩ := holder_advances sound locked
  · obtain ⟨commands, done⟩ := leaves_unlocked (sound.advance holder 0)
      (by rw [others call apart]; exact at_) released
    exact ⟨.advance holder 0 :: commands, done⟩
  · obtain ⟨commands, done⟩ := leaves_locked (sound.advance holder 0)
      (by rw [others call apart]; exact at_) still
    exact ⟨.advance holder 0 :: commands, done⟩
termination_by holds (server.calls holder).stage

theorem leaves {server : Server} (sound : Sound server) {call : Nat}
    (leaving : (server.calls call).stage.leaving = true) :
    ∃ commands, ((runAll commands server).calls call).stage = .finished := by
  cases at_ : (server.calls call).stage with
  | reapLock =>
      cases locked : server.lock with
      | none => exact leaves_unlocked sound at_ locked
      | some holder => exact leaves_locked sound at_ locked
  | notifyEnd => exact leaves_notifyEnd sound at_
  | delete => exact leaves_delete sound at_
  | reapUnlock => exact leaves_reapUnlock at_
  | finished => exact ⟨[], at_⟩
  | failed => exact absurd at_ (sound.held call).unfailed
  | _ =>
      rw [at_] at leaving
      cases leaving

/-! What is received. -/

theorem prefix_takeWhile {received log : List Queued} (first : received <+: log)
    (unclosed : ∀ queued ∈ received, queued.item ≠ .close) :
    received <+: log.takeWhile fun queued => decide (queued.item ≠ .close) := by
  obtain ⟨rest, rfl⟩ := first
  rw [List.takeWhile_append_of_pos fun queued inside => decide_eq_true (unclosed queued inside)]
  exact List.prefix_append _ _

theorem Sound.received {server : Server} (sound : Sound server) (call : Nat) :
    (server.calls call).received <+: (server.objects call).log := by
  have held := sound.held call
  cases enrolled : (server.calls call).stage.enrolled with
  | false =>
      rw [(held.blank enrolled).2]
      exact List.nil_prefix
  | true =>
      cases leaving : (server.calls call).stage.leaving with
      | true => exact held.leaves leaving
      | false =>
          rw [held.streams enrolled leaving, List.append_assoc]
          exact List.prefix_append _ _

namespace Sample

def request : Request := ⟨"m", 10, 20, "i"⟩

/-- A session is started, greeted, closed and read to its end. -/
def commands : List Command :=
  .start 0 request :: List.replicate 11 (.advance 0 0) ++
    [.ask 0 (.closeStream "m"), .proceed 0 "m" 0, .proceed 0 "m" 0] ++
    List.replicate 15 (.advance 0 1)

def read : Server := runAll commands .started

end Sample

end Daq.Session
