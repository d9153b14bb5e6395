import Daq.Stream.Monitor

namespace Daq.Stream

/-! Which registration an event of a poll result goes to. -/

/-- The descriptors that have callbacks are those the poller has. -/
def StreamMonitor.Synced (monitor : StreamMonitor) : Prop :=
  ∀ fd, monitor.callbacks.get? fd ≠ none ↔ fd ∈ monitor.poller

/-- What has to do with the pass through a poll result stays as it is, and the
given descriptors are not registered. -/
def spares (reserved : List Fd) : Frame StreamMonitor where
  rel before after := (before.Synced → after.Synced) ∧ after.found = before.found ∧
    after.polled = before.polled ∧ after.triggered = before.triggered ∧
    ∀ fd ∈ reserved, ∀ registration, after.callbacks.get? fd = some registration →
      before.callbacks.get? fd = some registration
  refl _ := ⟨id, rfl, rfl, rfl, fun _ _ _ => id⟩
  trans first second := ⟨second.1 ∘ first.1, second.2.1.trans first.2.1,
    second.2.2.1.trans first.2.2.1, second.2.2.2.1.trans first.2.2.2.1,
    fun fd inside registration => first.2.2.2.2 fd inside registration ∘
      second.2.2.2.2 fd inside registration⟩

variable {reserved : List Fd}

theorem monitor_spares {fd : Fd} (other : fd ∉ reserved) (callback hangup error : Bool)
    (priority : Nat) : (monitor fd callback hangup error priority).Within (spares reserved) := by
  unfold monitor
  refine Exec.within_bind Exec.within_get fun before => ?_
  split
  · exact Exec.within_raise _
  · refine Exec.within_bind (Exec.within_require _) fun _ => Exec.within_modify fun state => ?_
    refine ⟨fun synced key => ?_, rfl, rfl, rfl, fun key inside registration => ?_⟩
    · change (state.callbacks.insert fd _).get? key ≠ none ↔ key ∈ insert fd state.poller
      rw [Dict.get?_insert, Finset.mem_insert]
      split
      · rename_i same
        exact ⟨fun _ => .inl same, fun _ => Option.some_ne_none _⟩
      · rename_i different
        rw [synced key]
        exact ⟨.inr, fun either => either.resolve_left different⟩
    · change (state.callbacks.insert fd _).get? key = some registration → _
      have different : key ≠ fd := fun same => other (same ▸ inside)
      rw [Dict.get?_insert_of_ne _ _ different]
      exact id

theorem forget_spares (fd : Fd) : (forget fd).Within (spares reserved) := by
  unfold forget
  refine Exec.within_bind Exec.within_get fun before => ?_
  refine Exec.within_bind (Exec.within_require _) fun _ => Exec.within_modify fun state => ?_
  refine ⟨fun synced key => ?_, rfl, rfl, rfl, fun key _ registration => ?_⟩
  · change (state.callbacks.erase fd).get? key ≠ none ↔ key ∈ state.poller.erase fd
    rw [Dict.get?_erase, Finset.mem_erase]
    split
    · rename_i same
      exact ⟨fun wrong => absurd rfl wrong, fun both => absurd same both.1⟩
    · rename_i different
      rw [synced key]
      exact ⟨fun inside => ⟨different, inside⟩, And.right⟩
  · change (state.callbacks.erase fd).get? key = some registration → _
    rw [Dict.get?_erase]
    split
    · exact fun wrong => absurd wrong.symm (Option.some_ne_none _)
    · exact id

theorem close_spares (fd : Fd) (desc : StreamId) : (close fd desc).Within (spares reserved) := by
  refine Exec.within_modify fun state => ?_
  split
  · exact ⟨id, rfl, rfl, rfl, fun _ _ _ => id⟩
  · exact (spares reserved).refl state

theorem openStream_spares (fd : Fd) : (openStream fd).Within (spares reserved) := by
  refine Exec.within_modify fun state => ?_
  split
  · exact ⟨id, rfl, rfl, rfl, fun _ _ _ => id⟩
  · exact (spares reserved).refl state

/-- The act does not register one of the descriptors. -/
def Act.Spares (reserved : List Fd) : Act → Prop
  | .monitor fd _ _ _ _ => fd ∉ reserved
  | _ => True

instance (reserved : List Fd) : DecidablePred (Act.Spares reserved)
  | .monitor _ _ _ _ _ => inferInstanceAs (Decidable (¬ _))
  | .forget _ => inferInstanceAs (Decidable True)
  | .close _ _ => inferInstanceAs (Decidable True)
  | .openStream _ => inferInstanceAs (Decidable True)
  | .raise _ => inferInstanceAs (Decidable True)

theorem Act.perform_spares {act : Act} (sparing : act.Spares reserved) :
    act.perform.Within (spares reserved) := by
  cases act with
  | monitor fd callback hangup error priority => exact monitor_spares sparing _ _ _ _
  | forget fd => exact forget_spares fd
  | close fd desc => exact close_spares fd desc
  | openStream fd => exact openStream_spares fd
  | raise raised => exact Exec.within_raise raised

theorem perform_spares {acts : List Act} (sparing : ∀ act ∈ acts, act.Spares reserved) :
    (perform acts).Within (spares reserved) :=
  Exec.within_forEach_of fun act inside => Act.perform_spares (sparing act inside)

/-- Neither the callback nor the error handler registers one of them. -/
def Behaviour.Spares (reserved : List Fd) (behaviour : Behaviour) : Prop :=
  (∀ act ∈ behaviour.callback, act.Spares reserved) ∧
    ∀ act ∈ behaviour.handler, act.Spares reserved

instance (reserved : List Fd) (behaviour : Behaviour) : Decidable (behaviour.Spares reserved) :=
  inferInstanceAs (Decidable (_ ∧ _))

section Trigger

variable {behaviour : Behaviour} (sparing : behaviour.Spares reserved)

include sparing

theorem errorHandler_spares (registration : Registration) :
    (errorHandler registration behaviour).Within (spares reserved) :=
  Exec.within_ite (Exec.within_attempt (perform_spares sparing.2) fun _ => Exec.within_pure ())
    (Exec.within_pure ())

theorem triggerCallback_spares (registration : Registration) :
    (triggerCallback registration behaviour).Within (spares reserved) := by
  refine Exec.within_attempt ?_ fun _ => errorHandler_spares sparing registration
  exact Exec.within_ite (perform_spares sparing.1)
    (Exec.within_whenSome _ fun _ => Exec.within_raise _)

theorem triggerHangup_spares (fd : Fd) (registration : Registration) :
    (triggerHangup fd registration behaviour).Within (spares reserved) := by
  refine Exec.within_bind (close_spares fd registration.desc) fun _ => ?_
  refine Exec.within_attempt ?_ fun _ => errorHandler_spares sparing registration
  exact Exec.within_bind (forget_spares fd) fun _ =>
    Exec.within_when (perform_spares sparing.1)

end Trigger

/-! Passes. -/

/-- What has been triggered went to the registrations that were polled, and so
will what is still to come. -/
structure StreamMonitor.Dispatches (monitor : StreamMonitor) : Prop where
  synced : monitor.Synced
  once : (monitor.triggered.map Prod.fst ++ monitor.found.map Prod.fst).Nodup
  kept : ∀ fd ∈ monitor.found.map Prod.fst, ∀ registration,
    monitor.callbacks.get? fd = some registration → monitor.polled.get? fd = some registration
  told : ∀ entry ∈ monitor.triggered, monitor.polled.get? entry.1 = some entry.2.2

namespace StreamMonitor.Dispatches

variable {before after monitor : StreamMonitor}

theorem spared (dispatches : before.Dispatches)
    (spared : (spares (before.found.map Prod.fst)).rel before after) : after.Dispatches := by
  obtain ⟨synced, found, polled, triggered, callbacks⟩ := spared
  constructor
  · exact synced dispatches.synced
  · rw [triggered, found]
    exact dispatches.once
  · rw [found, polled]
    exact fun fd inside registration present =>
      dispatches.kept fd inside registration (callbacks fd inside registration present)
  · rw [triggered, polled]
    exact dispatches.told

/-- A pass may be given up. -/
theorem dropped (dispatches : monitor.Dispatches) {rest : List (Fd × Nat)}
    (fewer : rest.Sublist monitor.found) : { monitor with found := rest }.Dispatches where
  synced := dispatches.synced
  once := dispatches.once.sublist (.append_left (fewer.map _) _)
  kept fd inside := dispatches.kept fd ((fewer.map _).subset inside)
  told := dispatches.told

theorem triggers (dispatches : monitor.Dispatches) {fd : Fd} {event : Nat}
    {rest : List (Fd × Nat)} {registration : Registration}
    (next : monitor.found = (fd, event) :: rest)
    (present : monitor.callbacks.get? fd = some registration) :
    { monitor with
      found := rest
      triggered := monitor.triggered ++ [(fd, event, registration)] }.Dispatches where
  synced := dispatches.synced
  once := by
    have once := dispatches.once
    rw [next] at once
    simpa using once
  kept other inside := dispatches.kept other (by
    rw [next]
    exact List.mem_cons_of_mem _ inside)
  told entry inside := by
    rcases List.mem_append.mp inside with old | new
    · exact dispatches.told entry old
    · rw [List.mem_singleton.mp new]
      refine dispatches.kept fd ?_ registration present
      rw [next]
      exact List.mem_cons_self

theorem poll (dispatches : monitor.Dispatches) (fds : List (Fd × Nat)) :
    (monitor.poll fds).Dispatches := by
  unfold StreamMonitor.poll
  split
  · rename_i found
    have sorted := (List.perm_insertionSort (fun first second : Fd × Nat =>
      monitor.fdPriority second.1 ≤ monitor.fdPriority first.1) fds).map Prod.fst
    exact
      { synced := dispatches.synced
        once := sorted.nodup_iff.mpr found.2.1
        kept := fun _ _ _ => id
        told := List.forall_mem_nil _ }
  · exact dispatches

end StreamMonitor.Dispatches

/-- While the pass goes on, nothing registers a descriptor of which there is a
result still to come. -/
def Fresh (monitor : StreamMonitor) : Move → Prop
  | .process behaviour => behaviour.Spares (monitor.found.tail.map Prod.fst)
  | _ => True

instance (monitor : StreamMonitor) : DecidablePred (Fresh monitor)
  | .process _ => inferInstanceAs (Decidable (Behaviour.Spares _ _))
  | .handlers _ => inferInstanceAs (Decidable True)
  | .poll _ => inferInstanceAs (Decidable True)

theorem processNext_dispatches {monitor : StreamMonitor} (dispatches : monitor.Dispatches)
    {behaviour : Behaviour} (fresh : behaviour.Spares (monitor.found.tail.map Prod.fst)) :
    (processNext behaviour).Holds monitor (fun _ after => after.Dispatches) := by
  unfold processNext
  rw [Exec.holds_congr (Exec.get_bind_run _ _)]
  cases next : monitor.found with
  | nil => exact dispatches
  | cons result rest =>
      obtain ⟨fd, event⟩ := result
      have dropped := dispatches.dropped (next ▸ List.sublist_cons_self (fd, event) rest)
      rw [next, List.tail_cons] at fresh
      dsimp only
      rw [Exec.holds_congr (Exec.modify_bind_run _ _ _)]
      cases present : monitor.callbacks.get? fd with
      | none => exact dropped
      | some registration =>
          have triggers := dispatches.triggers next present
          have ends : ∀ reached : StreamMonitor, reached.Dispatches →
              { reached with found := [] }.Dispatches :=
            fun reached good => good.dropped (List.nil_sublist _)
          have processed : (processPollResult event fd registration behaviour).Holds
              { monitor with found := rest } (fun _ after => after.Dispatches) := by
            unfold processPollResult noteTriggered
            split
            · exact dropped
            · split
              · rw [Exec.holds_congr (Exec.modify_bind_run _ _ _)]
                exact triggers.spared (triggerCallback_spares fresh registration _)
              · split
                · rw [Exec.holds_congr (Exec.modify_bind_run _ _ _)]
                  exact triggers.spared (triggerHangup_spares fresh fd registration _)
                · exact dropped
          exact processed.attempt (fun _ _ good => good) fun _ reached good => ends reached good

theorem Move.step_dispatches {monitor : StreamMonitor} (dispatches : monitor.Dispatches)
    (move : Move) (fresh : Fresh monitor move) : (move.step monitor).Dispatches := by
  cases move with
  | handlers acts =>
      dsimp only [Move.step]
      split
      · rename_i none
        refine dispatches.spared ?_
        rw [none]
        exact perform_spares (fun act _ => by cases act <;> simp [Act.Spares]) monitor
      · exact dispatches
  | poll fds => exact dispatches.poll fds
  | process behaviour => exact processNext_dispatches dispatches fresh

/-- Whatever the callbacks do, the callbacks and the poller have the same
descriptors. -/
theorem Move.step_synced {monitor : StreamMonitor} (synced : monitor.Synced) (move : Move) :
    (move.step monitor).Synced := by
  have free : ∀ act : Act, act.Spares [] := by
    intro act
    cases act <;> simp [Act.Spares]
  have spared : ∀ behaviour : Behaviour, behaviour.Spares [] := fun _ =>
    ⟨fun act _ => free act, fun act _ => free act⟩
  have performed : ∀ program : Action Unit, program.Within (spares []) →
      program.Within (.invariant StreamMonitor.Synced) := fun _ within =>
    within.mono fun _ _ related => related.1
  cases move with
  | handlers acts =>
      dsimp only [Move.step]
      split
      · exact performed _ (perform_spares fun act _ => free act) monitor synced
      · exact synced
  | poll fds =>
      dsimp only [Move.step]
      unfold StreamMonitor.poll
      split
      · exact synced
      · exact synced
  | process behaviour =>
      refine (?_ : (processNext behaviour).Within (.invariant StreamMonitor.Synced)) monitor synced
      unfold processNext
      refine Exec.within_bind Exec.within_get fun before => ?_
      split
      · exact Exec.within_pure ()
      · refine Exec.within_bind (Exec.within_modify fun _ => id) fun _ => ?_
        split
        · exact Exec.within_pure ()
        · refine Exec.within_attempt ?_ fun _ => Exec.within_modify fun _ => id
          unfold processPollResult noteTriggered
          refine Exec.within_ite (Exec.within_raise _) (Exec.within_ite ?_ (Exec.within_ite ?_
            (Exec.within_raise _)))
          · exact Exec.within_bind (Exec.within_modify fun _ => id) fun _ =>
              performed _ (triggerCallback_spares (spared behaviour) _)
          · exact Exec.within_bind (Exec.within_modify fun _ => id) fun _ =>
              performed _ (triggerHangup_spares (spared behaviour) _ _)

theorem synced_initial : ({} : StreamMonitor).Synced := fun fd =>
  ⟨fun wrong => absurd rfl wrong, fun inside => absurd inside (Finset.notMem_empty fd)⟩

/-- In every run the callbacks and the poller have the same descriptors.  In
every run in which no callback registers a descriptor that a result is still to
come for, each result is triggered once at most, and for the registration that
was there when it was polled. -/
theorem dispatched_to_polled {monitor : StreamMonitor}
    (reached : Reaches Move.step (fun _ _ => True) {} monitor) :
    (∀ fd, fd ∈ monitor.callbacks.keys ↔ fd ∈ monitor.poller) ∧
      (Reaches Move.step Fresh {} monitor →
        (monitor.triggered.map fun entry => (entry.1, entry.2.1)).Nodup ∧
          ∀ entry ∈ monitor.triggered, monitor.polled.get? entry.1 = some entry.2.2) := by
  constructor
  · have synced : monitor.Synced := reached.invariant StreamMonitor.Synced synced_initial
      fun _ move synced _ => Move.step_synced synced move
    intro fd
    rw [← synced fd, Dict.mem_keys_iff]
    exact Option.ne_none_iff_exists'.symm
  · intro fresh
    have dispatches : monitor.Dispatches := by
      refine fresh.invariant StreamMonitor.Dispatches ?_ fun state move dispatches fresh =>
        Move.step_dispatches dispatches move fresh
      exact
        { synced := synced_initial
          once := List.nodup_nil
          kept := List.forall_mem_nil _
          told := List.forall_mem_nil _ }
    refine ⟨?_, dispatches.told⟩
    have fds := (List.nodup_append.mp dispatches.once).1
    refine List.Nodup.of_map Prod.fst ?_
    rw [List.map_map]
    exact fds

namespace Dispatch

/-- Two streams are monitored, and both have data. -/
def started : List Move :=
  [.handlers [.openStream 5, .monitor 5 true true true 1, .openStream 7,
      .monitor 7 true true true 1],
    .poll [(5, pollIn), (7, pollHup)]]

/-- The first stream's callback ends the second stream and starts another under
a number of its own. -/
def replacing : List Move :=
  started ++ [.process { callback := [.forget 7, .close 7 1, .openStream 8,
    .monitor 8 true true true 1] }, .process {}]

def replaced : StreamMonitor := replacing.foldl (fun monitor move => move.step monitor) {}

theorem replaced_dispatched :
    replaced.triggered.map (fun entry => (entry.1, entry.2.1)) = [(5, pollIn)] ∧
      (∀ fd, fd ∈ replaced.callbacks.keys ↔ fd ∈ replaced.poller) ∧
      (replaced.triggered.map fun entry => (entry.1, entry.2.1)).Nodup ∧
      ∀ entry ∈ replaced.triggered, replaced.polled.get? entry.1 = some entry.2.2 := by
  have dispatched := dispatched_to_polled (Reaches.foldl (fun _ _ => trivial) replacing)
  exact ⟨by decide +kernel, dispatched.1, dispatched.2 (Reaches.start.run (by decide +kernel))⟩

/-- The new stream gets the number of the one that was ended. -/
def reusing : List Move :=
  started ++ [.process { callback := [.forget 7, .close 7 1, .openStream 7,
    .monitor 7 true true true 1] }, .process {}]

def reused : StreamMonitor := reusing.foldl (fun monitor move => move.step monitor) {}

/-- The hangup of the stream that was ended goes to the new one. -/
theorem reused_misdispatched : ¬ ∀ monitor,
    Reaches Move.step (fun _ _ => True) {} monitor →
      (∀ fd, fd ∈ monitor.callbacks.keys ↔ fd ∈ monitor.poller) ∧
        (monitor.triggered.map fun entry => (entry.1, entry.2.1)).Nodup ∧
        ∀ entry ∈ monitor.triggered, monitor.polled.get? entry.1 = some entry.2.2 := by
  intro dispatches
  have told := (dispatches reused (Reaches.foldl (fun _ _ => trivial) reusing)).2.2
  exact absurd told (by decide +kernel)

end Dispatch

end Daq.Stream
