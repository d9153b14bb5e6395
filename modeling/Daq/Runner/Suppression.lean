import Daq.Runner.CommandSimulation

namespace Daq

/-! Tests are suppressed after a failure: a trigger is refused from then on, and
a host is only created for a device that was activated, with nothing finalized
in between.  The queue is not asked whether tests are suppressed. -/

namespace Suppression

/-- No device has been finalized with failures. -/
def Unfailed (trail : List Happening) : Prop :=
  ∀ device, Happening.finalized device true ∉ trail

/-- A direct activation comes before any failure. -/
def TriggersUnfailed (before : List Happening) (happening : Happening) : Prop :=
  ∀ device waiting, happening = .activated device false waiting → Unfailed before

/-- A host is created for a device that was activated since the last
finalization. -/
def CreatesActivated (before : List Happening) (happening : Happening) : Prop :=
  ∀ device, happening = .created device →
    History.Since (fun mark => ∃ popped waiting, mark = .activated device popped waiting)
      Happening.Finalizes before

/-- Taking a device from the queue comes before any failure. -/
def PopsUnfailed (before : List Happening) (happening : Happening) : Prop :=
  ∀ device waiting, happening = .activated device true waiting → Unfailed before

def CreatesUnfailed (before : List Happening) (happening : Happening) : Prop :=
  ∀ device, happening = .created device → Unfailed before

end Suppression

open Suppression

structure Ledger.Suppresses (ledger : Ledger) : Prop where
  flag : ledger.runTests = true → Unfailed ledger.trail
  triggered : History.Always TriggersUnfailed ledger.trail
  created : History.Always CreatesActivated ledger.trail

namespace Ledger.Suppresses

variable {ledger : Ledger}

theorem initial (native : Bool) : (Ledger.initial native).Suppresses where
  flag := fun _ _ => nofun
  triggered := History.always_nil
  created := History.always_nil

/-- Whatever is no finalization, activation or creation. -/
theorem noted (suppresses : ledger.Suppresses) {after : Ledger} {notes : List Happening}
    (tests : after.runTests = true → ledger.runTests = true)
    (trail : after.trail = ledger.trail ++ notes)
    (unfailed : ∀ note ∈ notes, ∀ device, note ≠ .finalized device true)
    (untriggered : ∀ note ∈ notes, ∀ device waiting, note ≠ .activated device false waiting)
    (uncreated : ∀ note ∈ notes, ∀ device, note ≠ .created device) : after.Suppresses where
  flag := by
    intro running device member
    rw [trail] at member
    rcases List.mem_append.mp member with old | new
    · exact suppresses.flag (tests running) device old
    · exact unfailed _ new device rfl
  triggered := by
    rw [trail, History.always_append]
    refine ⟨suppresses.triggered, fun before note later split device waiting same => ?_⟩
    exact absurd same (untriggered note (split ▸ List.mem_append_right _ (.head _)) _ _)
  created := by
    rw [trail, History.always_append]
    refine ⟨suppresses.created, fun before note later split device same => ?_⟩
    exact absurd same (uncreated note (split ▸ List.mem_append_right _ (.head _)) _)

theorem finalized (suppresses : ledger.Suppresses) {device : DeviceId} {failed : Bool}
    (suppressed : failed = true → ledger.runTests = false) :
    ({ ledger with trail := ledger.trail ++ [.finalized device failed] } :
      Ledger).Suppresses where
  flag := by
    intro running other member
    rcases List.mem_append.mp member with old | new
    · exact suppresses.flag running other old
    · cases List.mem_singleton.mp new
      cases running.symm.trans (suppressed rfl)
  triggered := History.always_concat.mpr ⟨suppresses.triggered, fun _ _ => nofun⟩
  created := History.always_concat.mpr ⟨suppresses.created, fun _ => nofun⟩

theorem triggering (suppresses : ledger.Suppresses) {device : DeviceId}
    (running : ledger.runTests = true) :
    ({ ledger with trail := ledger.trail ++
      [.triggered device, .activated device false ledger.queue] } : Ledger).Suppresses where
  flag := by
    intro running other member
    rcases List.mem_append.mp member with old | new
    · exact suppresses.flag running other old
    · simp at new
  triggered := by
    rw [← List.singleton_append, ← List.append_assoc]
    refine History.always_concat.mpr ⟨History.always_concat.mpr
      ⟨suppresses.triggered, fun _ _ => nofun⟩, fun _ _ _ other member => ?_⟩
    rcases List.mem_append.mp member with old | new
    · exact suppresses.flag running other old
    · simp at new
  created := by
    rw [← List.singleton_append, ← List.append_assoc]
    exact History.always_concat.mpr ⟨History.always_concat.mpr
      ⟨suppresses.created, fun _ => nofun⟩, fun _ => nofun⟩

theorem creating (suppresses : ledger.Suppresses) {device : DeviceId}
    (starting : ledger.Starting device) :
    ({ ledger with trail := ledger.trail ++ [.created device] } : Ledger).Suppresses where
  flag := by
    intro running other member
    rcases List.mem_append.mp member with old | new
    · exact suppresses.flag running other old
    · simp at new
  triggered := History.always_concat.mpr ⟨suppresses.triggered, fun _ _ => nofun⟩
  created := by
    refine History.always_concat.mpr ⟨suppresses.created, ?_⟩
    rintro _ ⟨⟩
    exact starting

theorem step {config : Config} {reaps : Mac → Prop} {before after : Ledger}
    (failMode : config.failMode = true) (step : Step config reaps before after)
    (suppresses : before.Suppresses) : after.Suppresses := by
  cases step with
  | finalize device failed suppressed =>
      exact suppresses.finalized fun failure => suppressed failure failMode
  | trigger device running _ => exact suppresses.triggering running
  | create device starting => exact suppresses.creating starting
  | suppress =>
      exact suppresses.noted nofun (List.append_nil _).symm (fun _ => nofun) (fun _ => nofun)
        fun _ => nofun
  | converse | leave =>
      exact suppresses.noted id (List.append_nil _).symm (fun _ => nofun) (fun _ => nofun)
        fun _ => nofun
  | enqueue | consider | cancel | openUp | giveBack | attach | detach | terminate | retire
  | reap => exact suppresses.noted id rfl (by simp) (by simp) (by simp)
  | flap info time note _ cause =>
      rcases cause with rfl | rfl <;> exact suppresses.noted id rfl (by simp) (by simp) (by simp)
  | settle info value notes _ cause =>
      rcases cause with rfl | rfl | rfl <;>
        exact suppresses.noted id rfl (by simp) (by simp) (by simp)

/-- The activation a host is created for comes before any failure, and so does
the creation. -/
theorem creates_unfailed (suppresses : ledger.Suppresses)
    (popped : History.Always PopsUnfailed ledger.trail) :
    History.Always CreatesUnfailed ledger.trail := by
  intro before happening after split device same other failed
  obtain ⟨first, mark, since, activation, ⟨taken, waiting, rfl⟩, quiet⟩ :=
    suppresses.created before happening after split device same
  have earlier : ledger.trail = first ++ .activated device taken waiting ::
      (since ++ happening :: after) := by
    rw [split, activation, List.append_assoc, List.cons_append]
  have unfailed : Unfailed first := by
    cases taken with
    | false => exact suppresses.triggered first _ _ earlier device waiting rfl
    | true => exact popped first _ _ earlier device waiting rfl
  rw [activation] at failed
  rcases List.mem_append.mp failed with old | new
  · exact unfailed other old
  · rcases List.mem_cons.mp new with equal | later
    · cases equal
    · exact quiet _ later ⟨other, true, rfl⟩

end Ledger.Suppresses

/-- For every run with `fail_mode`: if no device is taken from the queue once a
device was finalized with failures, then no host is created from then on. -/
theorem created_unfailed {env : Env} {world : World} (reached : Started env world)
    (failMode : env.config.failMode = true)
    (popped : ∀ before device waiting after,
      world.trail = before ++ .activated device true waiting :: after →
      ∀ other, Happening.finalized other true ∉ before) :
    ∀ before device after, world.trail = before ++ .created device :: after →
      ∀ other, Happening.finalized other true ∉ before := by
  have suppresses : world.ledger.Suppresses :=
    started_ledger Ledger.Suppresses .initial (fun _ _ step => .step failMode step) reached
  have unfailed := suppresses.creates_unfailed (by
    rintro before happening after split device waiting rfl
    exact popped before device waiting after split)
  intro before device after split
  exact unfailed before _ after split device rfl

namespace Suppression

def oneHost : Config := { secPort := 7, maxHosts := some 1, failMode := true }

/-- Two devices are learned, the second of which has to wait, and the first one
fails because its port goes down. -/
def firstFails : List Command :=
  [.receive (.event (.portState 1 1 true)), .receive (.event (.portState 2 1 true)),
    .receive (.event (.portState 2 2 true)),
    .receive (.event (.portLearn 2 1 "9a:02:57:1e:8f:01" 10)),
    .receive (.event (.portLearn 2 2 "9a:02:57:1e:8f:02" 10)), .faucet,
    .receive (.event (.portState 2 1 false)), .faucet, .reap]

def firstFailed : World :=
  firstFails.foldl (fun state command => command.step (.quiet oneHost) state)
    (startWorld (.quiet oneHost))

theorem firstFailed_started : Started (.quiet oneHost) firstFailed :=
  Reaches.foldl (fun _ _ => trivial) _

/-- A device is activated that waited. -/
def fromQueue : Happening → Bool
  | .activated _ popped _ => popped
  | _ => false

theorem firstFailed_created_unfailed :
    firstFailed.trail = firstFailed.trail.take 7 ++ .created 0 :: firstFailed.trail.drop 8 ∧
      Happening.finalized 0 true ∈ firstFailed.trail ∧
      Happening.finalized 0 true ∉ firstFailed.trail.take 7 := by
  have created : firstFailed.trail = firstFailed.trail.take 7 ++
      .created 0 :: firstFailed.trail.drop 8 := by decide +kernel
  refine ⟨created, by decide +kernel, ?_⟩
  refine created_unfailed firstFailed_started rfl ?_ _ 0 _ created 0
  intro before device waiting after split
  have listed : .activated device true waiting ∈ firstFailed.trail :=
    split ▸ List.mem_append_right _ (.head _)
  have unpopped : ∀ happening ∈ firstFailed.trail, fromQueue happening = false := by
    decide +kernel
  cases unpopped _ listed

/-- The next idle pass takes the second device from the queue. -/
def secondPopped : World := Command.idle.step (.quiet oneHost) firstFailed

theorem host_created_after_failure :
    ¬ ∀ (env : Env) (world : World), Started env world → env.config.failMode = true →
      Truthy env.config.maxHosts → ∀ before device after,
        world.trail = before ++ .created device :: after →
        ∀ other, Happening.finalized other true ∉ before := by
  intro always
  have reached : Started (.quiet oneHost) secondPopped :=
    Reaches.step Command.idle firstFailed_started trivial
  have created : secondPopped.trail = secondPopped.trail.take 21 ++
      .created 1 :: secondPopped.trail.drop 22 := by decide +kernel
  refine always _ _ reached rfl (by decide) _ 1 _ created 0 ?_
  decide +kernel

end Suppression

end Daq
