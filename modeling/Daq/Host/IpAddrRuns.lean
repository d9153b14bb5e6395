import Daq.Host.IpAddr
import Mathlib.Data.List.Sublists

namespace Daq.IpAddr

/-! What holds of the sequence of tests in every run. -/

/-- What is left of the tests and of the ranges comes behind what has been done,
and there is one call at most, after which nothing is left to call back. -/
structure Sound (ranges : List DhcpRange) (module : IpAddrModule) : Prop where
  ran : (module.ran ++ module.tests).Sublist declared
  applied : (module.applied ++ module.testDhcpRanges).Sublist ranges
  once : module.calls.length ≤ 1
  gone : module.dropped = false → module.calls = []
  settled : module.dropped = true →
    module.dockerHost.running = false ∨ module.forceTerminated = true
  silent : module.dockerHost.startTime = true → module.ipCallback = none
  begun : module.dockerHost.running = true → module.dockerHost.startTime = true
  plain : ∀ call ∈ module.calls, call.exception = none →
    module.dockerHost.startTime = true ∧ module.dockerHost.completed = true

/-- The module is to go on with some tests, before the analysis. -/
structure Ready (ranges : List DhcpRange) (tests : List Test) (module : IpAddrModule) : Prop
    extends Sound ranges module where
  left : module.tests = tests
  before : module.dockerHost.startTime = false
  kept : module.dropped = false

/-- How a test may end: an exception leaves nothing behind that calls back. -/
def Ended (ranges : List DhcpRange) (outcome : Except Exc Unit) (module : IpAddrModule) : Prop :=
  Sound ranges module ∧ ∀ raised, outcome = .error raised →
    module.calls = [] ∧ module.dockerHost.running = false

def Finished (ranges : List DhcpRange) (outcome : Except Exc Unit) (module : IpAddrModule) : Prop :=
  outcome = .ok () ∧ Sound ranges module

section Steps

variable {ranges : List DhcpRange} {tests : List Test} {module : IpAddrModule} {answers : Answers}
variable {α : Type}

theorem Ready.not_running (ready : Ready ranges tests module) :
    module.dockerHost.running = false := by
  by_contra running
  have started := ready.begun (by simpa using running)
  rw [ready.before] at started
  cases started

theorem Ready.ended (ready : Ready ranges tests module) (outcome : Except Exc Unit) :
    Ended ranges outcome module :=
  ⟨ready.toSound, fun _ _ => ⟨ready.gone ready.kept, ready.not_running⟩⟩

theorem Finished.ended {outcome : Except Exc Unit} (finished : Finished ranges outcome module) :
    Ended ranges outcome module := by
  refine ⟨finished.2, fun raised failed => ?_⟩
  cases finished.1.symm.trans failed

theorem Ready.withTimeout (ready : Ready ranges tests module) (timeout : Bool) :
    Ready ranges tests { module with timeout := timeout } :=
  { ready with }

theorem Ready.listening (ready : Ready ranges tests module) (ipCallback : Option IpCallback) :
    Ready ranges tests { module with ipCallback := ipCallback } :=
  { ready with silent := fun started => by cases ready.before.symm.trans started }

theorem ended_setTimeout {next : Unit → Action Unit} (ready : Ready ranges tests module)
    (later : ∀ reached, Ready ranges tests reached → (next ()).Holds reached (Ended ranges)) :
    (setTimeout >>= next).Holds module (Ended ranges) := by
  rw [Exec.holds_bind, setTimeout, Exec.holds_bind, Exec.holds_get, Exec.then_ok, Exec.holds_when]
  constructor
  · exact fun _ => later _ (ready.withTimeout true)
  · exact fun _ => later _ ready

theorem ended_ofExcept {outcome : Except Exc α} {next : α → Action Unit}
    (ready : Ready ranges tests module)
    (later : ∀ value, (next value).Holds module (Ended ranges)) :
    (Exec.ofExcept outcome >>= next).Holds module (Ended ranges) := by
  rw [Exec.holds_bind, Exec.holds_ofExcept]
  cases outcome with
  | ok value => exact later value
  | error raised => exact ready.ended _

theorem ended_listen (ready : Ready ranges tests module) (ipCallback : Option IpCallback) :
    (listen ipCallback).Holds module (Ended ranges) :=
  (ready.listening ipCallback).ended _

theorem dhcpPortToggleTest_ended (ready : Ready ranges tests module) :
    (dhcpPortToggleTest answers).Holds module (Ended ranges) := by
  apply ended_setTimeout ready
  intro reached ready
  apply ended_ofExcept ready
  intro disconnected
  rw [Exec.holds_when]
  constructor
  · intro _
    apply ended_ofExcept ready
    exact fun _ => ended_listen ready _
  · exact fun _ => ready.ended _

theorem dhcpChangeTest_ended (ready : Ready ranges tests module) :
    (dhcpChangeTest answers).Holds module (Ended ranges) := by
  apply ended_setTimeout ready
  intro reached ready
  apply ended_ofExcept ready
  intro disconnected
  rw [Exec.holds_when]
  constructor
  · intro _
    apply ended_ofExcept ready
    intro _
    apply ended_ofExcept ready
    exact fun _ => ended_listen ready _
  · exact fun _ => ready.ended _

theorem ipChangeTest_ended (ready : Ready ranges tests module) :
    (ipChangeTest answers).Holds module (Ended ranges) := by
  apply ended_setTimeout ready
  intro reached ready
  apply ended_ofExcept ready
  exact fun _ => ended_listen ready _

/-- A range is taken off the list before anything is done with it. -/
theorem Ready.withRange {range : DhcpRange} {rest : List DhcpRange}
    (ready : Ready ranges tests module) (first : module.testDhcpRanges = range :: rest) :
    Ready ranges tests { module with testDhcpRanges := rest } := by
  have applied : (module.applied ++ rest).Sublist ranges := by
    apply List.Sublist.trans _ ready.applied
    rw [first]
    exact (List.sublist_cons_self range rest).append_left _
  exact { ready with applied := applied }

theorem Ready.withApplied {range : DhcpRange} {rest : List DhcpRange}
    (ready : Ready ranges tests module) (first : module.testDhcpRanges = range :: rest) :
    Ready ranges tests
      { module with testDhcpRanges := rest, applied := module.applied ++ [range] } := by
  have applied : (module.applied ++ [range] ++ rest).Sublist ranges := by
    rw [List.append_assoc, List.singleton_append, ← first]
    exact ready.applied
  exact { ready with applied := applied }

theorem multiSubnetTest_ended {next : Action Unit} (ready : Ready ranges tests module)
    (goesOn : ∀ reached, Ready ranges tests reached → next.Holds reached (Ended ranges)) :
    (multiSubnetTest answers next).Holds module (Ended ranges) := by
  apply ended_setTimeout ready
  intro reached ready
  rw [Exec.holds_bind, Exec.holds_get, Exec.then_ok]
  cases first : reached.testDhcpRanges with
  | nil => exact goesOn reached ready
  | cons range rest =>
      rw [Exec.holds_bind, Exec.holds_modify, Exec.then_ok]
      apply ended_ofExcept (ready.withRange first)
      intro _
      rw [Exec.holds_bind, Exec.holds_modify, Exec.then_ok]
      apply ended_ofExcept (ready.withApplied first)
      exact fun _ => ended_listen (ready.withApplied first) _

theorem analyze_ended (ready : Ready ranges tests module) :
    (analyze answers).Holds module (Ended ranges) := by
  apply ended_setTimeout ready
  intro reached ready
  rw [Exec.holds_bind, listen, Exec.holds_modify, Exec.then_ok, dockerStart, Exec.holds_bind,
    Exec.holds_modify, Exec.then_ok, Exec.holds_bind, Exec.holds_ofExcept]
  have empty : reached.calls = [] := ready.gone ready.kept
  have started (running : Bool) : Sound ranges { reached with
      ipCallback := none
      dockerHost := { reached.dockerHost with startTime := true, running := running } } :=
    { ready with
      settled := fun dropped => by cases ready.kept.symm.trans dropped
      silent := fun _ => rfl
      begun := fun _ => rfl
      plain := fun call member => by
        rw [empty] at member
        cases member }
  cases answers.dockerStart with
  | error raised => exact ⟨started _, fun _ _ => ⟨empty, ready.not_running⟩⟩
  | ok _ => exact ⟨started true, fun _ impossible => by cases impossible⟩

theorem finalize_finished {call : Call} (sound : Sound ranges module)
    (empty : module.forceTerminated = false → module.calls = [])
    (stopped : module.dockerHost.running = false)
    (plain : call.exception = none →
      module.dockerHost.startTime = true ∧ module.dockerHost.completed = true) :
    (finalize call).Holds module (Finished ranges) := by
  rw [finalize, Exec.holds_bind, Exec.holds_modify, Exec.then_ok, Exec.holds_bind, Exec.holds_get,
    Exec.then_ok, Exec.holds_when]
  constructor
  · intro unforced
    have made : module.calls ++ [call] = [call] := by rw [empty unforced, List.nil_append]
    refine ⟨rfl, ?_⟩
    constructor
    · exact sound.ran
    · exact sound.applied
    · change (module.calls ++ [call]).length ≤ 1
      rw [made]
      exact le_rfl
    · intro kept
      cases kept
    · exact fun _ => .inl stopped
    · exact fun _ => rfl
    · exact sound.begun
    · intro other member
      change other ∈ module.calls ++ [call] at member
      rw [made, List.mem_singleton] at member
      exact member ▸ plain
  · exact fun _ => ⟨rfl, { sound with silent := fun _ => rfl }⟩

theorem testFunction_ended {next : Action Unit} (test : Test) (ready : Ready ranges tests module)
    (goesOn : ∀ reached, Ready ranges tests reached → next.Holds reached (Ended ranges)) :
    (testFunction answers next test).Holds module (Ended ranges) := by
  cases test with
  | dhcpPortToggle => exact dhcpPortToggleTest_ended ready
  | multiSubnet => exact multiSubnetTest_ended ready goesOn
  | ipChange => exact ipChangeTest_ended ready
  | dhcpChange => exact dhcpChangeTest_ended ready
  | analyze => exact analyze_ended ready

/-- Whatever a test raises is passed on, once. -/
theorem finished_of_ended {body : Action Unit}
    (ended : body.Holds module (Ended ranges)) :
    (Exec.attempt body fun raised => finalize { exception := some raised }).Holds module
      (Finished ranges) := by
  apply ended.attempt
  · exact fun _ _ after => ⟨rfl, after.1⟩
  · intro raised reached after
    obtain ⟨empty, stopped⟩ := after.2 raised rfl
    apply finalize_finished after.1 (fun _ => empty) stopped
    intro impossible
    cases impossible

theorem nextOf_finished (ready : Ready ranges tests module) :
    (nextOf answers tests).Holds module (Finished ranges) := by
  induction tests generalizing module with
  | nil =>
      apply finished_of_ended
      exact (ready.withTimeout false).ended _
  | cons test rest induction =>
      apply finished_of_ended
      rw [Exec.holds_bind, Exec.holds_modify, Exec.then_ok, Exec.holds_bind, Exec.holds_modify,
        Exec.then_ok]
      have popped : Ready ranges rest
          { module with timeout := false, tests := rest, ran := module.ran ++ [test] } := by
        have ran : (module.ran ++ [test] ++ rest).Sublist declared := by
          rw [List.append_assoc, List.singleton_append, ← ready.left]
          exact ready.ran
        exact { ready with ran := ran, left := rfl }
      apply testFunction_ended test popped
      intro reached ready
      exact (induction ready).mono fun _ _ finished => finished.ended

theorem nextTest_finished (ready : Ready ranges tests module) :
    (nextTest answers).Holds module (Finished ranges) := by
  rw [nextTest, Exec.holds_bind, Exec.holds_get, Exec.then_ok, ready.left]
  exact nextOf_finished ready

/-- A module that the host refers to is ready as long as the analysis has not
been started. -/
theorem Sound.ready (sound : Sound ranges module) (kept : module.dropped = false)
    (before : module.dockerHost.startTime = false) : Ready ranges module.tests module :=
  { sound with left := rfl, before := before, kept := kept }

theorem Sound.before_of_listening {ipCallback : IpCallback} (sound : Sound ranges module)
    (listening : module.ipCallback = some ipCallback) :
    module.dockerHost.startTime = false := by
  by_contra started
  have silent := sound.silent (by simpa using started)
  rw [listening] at silent
  cases silent

/-- A terminated module has not called and will not call for its container. -/
structure Terminated (ranges : List DhcpRange) (module : IpAddrModule) : Prop
    extends Sound ranges module where
  empty : module.calls = []
  forced : module.forceTerminated = true

theorem Terminated.stopping (terminated : Terminated ranges module) {running : Bool}
    (still : running = true → module.dockerHost.running = true) :
    Terminated ranges
      { module with dockerHost := { module.dockerHost with running := running } } :=
  { terminated with
    settled := fun _ => .inr terminated.forced
    begun := fun running => terminated.begun (still running) }

theorem Terminated.silenced (terminated : Terminated ranges module) :
    Terminated ranges { module with ipCallback := none } :=
  { terminated with silent := fun _ => rfl }

theorem Terminated.left (terminated : Terminated ranges module) :
    Sound ranges { module with dropped := true } :=
  { terminated with
    gone := fun kept => by cases kept
    settled := fun _ => .inr terminated.forced }

theorem finalize_terminated {call : Call} (terminated : Terminated ranges module) :
    (finalize call).Holds module (fun _ reached => Terminated ranges reached) := by
  rw [finalize, Exec.holds_bind, Exec.holds_modify, Exec.then_ok, Exec.holds_bind, Exec.holds_get,
    Exec.then_ok, Exec.holds_when]
  constructor
  · intro unforced
    cases terminated.forced.symm.trans unforced
  · exact fun _ => terminated.silenced

theorem terminate_terminated (sound : Sound ranges module) (kept : module.dropped = false) :
    (terminate answers).Holds module (fun _ reached => Terminated ranges reached) := by
  have forced : Terminated ranges { module with forceTerminated := true } :=
    { sound with settled := fun _ => .inr rfl, empty := sound.gone kept, forced := rfl }
  rw [terminate, Exec.holds_bind, Exec.holds_modify, Exec.then_ok, Exec.holds_bind, Exec.holds_get,
    Exec.then_ok, Exec.holds_bind, Exec.holds_when]
  constructor
  · intro _
    rw [dockerTerminate]
    cases answers.dockerTerminate with
    | ok _ =>
        apply finalize_terminated
        exact forced.stopping fun impossible => by cases impossible
    | error raised =>
        apply forced.stopping
        intro still
        rw [Bool.and_eq_true] at still
        exact still.1
  · exact fun _ => finalize_terminated forced

/-- The expiry is reported by the module itself, as the container is not to. -/
theorem Terminated.reported {call : Call} (terminated : Terminated ranges module)
    (raised : call.exception ≠ none) :
    Sound ranges { module with calls := module.calls ++ [call], dropped := true } := by
  have made : module.calls ++ [call] = [call] := by rw [terminated.empty, List.nil_append]
  rw [made]
  exact { terminated with
    once := le_rfl
    gone := fun kept => by cases kept
    settled := fun _ => .inr terminated.forced
    plain := fun other member plain => by
      cases List.mem_singleton.mp member
      exact absurd plain raised }

theorem heartbeat_sound (sound : Sound ranges module) (kept : module.dropped = false) :
    (heartbeat answers).Holds module (fun _ reached => Sound ranges reached) := by
  rw [heartbeat, Exec.holds_bind, Exec.holds_get, Exec.then_ok, Exec.holds_when, Exec.holds_ite]
  refine ⟨fun _ => ⟨fun _ => ?_, fun before => ?_⟩, fun _ => sound⟩
  · apply (terminate_terminated sound kept).bind
    · exact fun _ _ terminated => terminated.toSound
    · exact fun _ _ terminated => terminated.reported (by simp)
  · rw [Exec.holds_bind, Exec.holds_modify, Exec.then_ok]
    have last : (module.ran ++ module.tests.drop (module.tests.length - 1)).Sublist declared :=
      ((List.drop_sublist _ _).append_left _).trans sound.ran
    have ready := sound.ready kept (by simpa using before)
    have skipped : Ready ranges (module.tests.drop (module.tests.length - 1))
        { module with tests := module.tests.drop (module.tests.length - 1) } :=
      { ready with ran := last, left := rfl }
    exact (nextTest_finished skipped).mono fun _ _ finished => finished.2

theorem ipListener_sound (sound : Sound ranges module) (kept : module.dropped = false) :
    (ipListener answers).Holds module (fun _ reached => Sound ranges reached) := by
  rw [ipListener, Exec.holds_bind, Exec.holds_ofExcept]
  cases answers.pingTest with
  | error raised => exact sound
  | ok _ =>
      rw [Exec.then_ok, Exec.holds_bind, Exec.holds_get, Exec.then_ok]
      cases listening : module.ipCallback with
      | none => exact sound
      | some ipCallback =>
          have ready := sound.ready kept (sound.before_of_listening listening)
          cases ipCallback with
          | nextTest => exact (nextTest_finished ready).mono fun _ _ finished => finished.2
          | multiSubnetTest =>
              have goesOn (reached : IpAddrModule) (ready : Ready ranges module.tests reached) :
                  (nextTest answers).Holds reached (Ended ranges) :=
                (nextTest_finished ready).mono fun _ _ finished => finished.ended
              exact (multiSubnetTest_ended ready goesOn).mono fun _ _ ended => ended.1

theorem Sound.completed (sound : Sound ranges module)
    (running : module.dockerHost.running = true) :
    Sound ranges { module with
      dockerHost := { module.dockerHost with running := false, completed := true } } :=
  { sound with
    settled := fun _ => .inl rfl
    begun := fun impossible => by cases impossible
    plain := fun _ _ _ => ⟨sound.begun running, rfl⟩ }

theorem Sound.forced_of_running (sound : Sound ranges module)
    (running : module.dockerHost.running = true) (dropped : module.dropped = true) :
    module.forceTerminated = true := by
  cases sound.settled dropped with
  | inl stopped => cases running.symm.trans stopped
  | inr forced => exact forced

/-- A container whose stream ends after the module has called back has been
terminated. -/
theorem Sound.empty_of_running (sound : Sound ranges module)
    (running : module.dockerHost.running = true) (unforced : module.forceTerminated = false) :
    module.calls = [] := by
  apply sound.gone
  by_contra dropped
  have forced := sound.forced_of_running running (by simpa using dropped)
  cases unforced.symm.trans forced

theorem Sound.step (sound : Sound ranges module) (event : Event) :
    Sound ranges (module.step event) := by
  cases event with
  | ipNotify isDone answers =>
      rw [IpAddrModule.step]
      split
      · rename_i delivered
        exact ipListener_sound sound delivered.1
      · exact sound
  | heartbeat answers =>
      rw [IpAddrModule.step]
      split
      · rename_i kept
        exact heartbeat_sound sound kept
      · exact sound
  | completed returnCode exception =>
      rw [IpAddrModule.step]
      split
      · rename_i running
        have finished : (finalize { returnCode, exception }).Holds _ (Finished ranges) :=
          finalize_finished (sound.completed running) (sound.empty_of_running running) rfl
            fun _ => ⟨sound.begun running, rfl⟩
        exact finished.2
      · exact sound
  | terminate answers =>
      rw [IpAddrModule.step]
      split
      · rename_i kept
        exact (terminate_terminated sound kept).left
      · exact sound

theorem Sound.run (sound : Sound ranges module) (events : List Event) :
    Sound ranges (module.run events) := by
  induction events generalizing module with
  | nil => exact sound
  | cons event rest induction => exact induction (sound.step event)

/-- What is dropped stays dropped, and calls no more. -/
theorem Sound.step_dropped (sound : Sound ranges module) (dropped : module.dropped = true)
    (event : Event) :
    (module.step event).calls = module.calls ∧ (module.step event).dropped = true := by
  cases event with
  | ipNotify isDone answers => simp [IpAddrModule.step, dropped]
  | heartbeat answers => simp [IpAddrModule.step, dropped]
  | completed returnCode exception =>
      rw [IpAddrModule.step]
      split
      · rename_i running
        have forced := sound.forced_of_running running dropped
        simp [finalize, Exec.when, forced, dropped]
      · exact ⟨rfl, dropped⟩
  | terminate answers => simp [IpAddrModule.step, dropped]

theorem Sound.run_dropped (sound : Sound ranges module) (dropped : module.dropped = true)
    (events : List Event) : (module.run events).calls = module.calls := by
  induction events generalizing module with
  | nil => rfl
  | cons event rest induction =>
      have unchanged := sound.step_dropped dropped event
      exact (induction (sound.step event) unchanged.2).trans unchanged.1

theorem Sound.terminate_dropped (sound : Sound ranges module) (answers : Answers) :
    (module.step (.terminate answers)).calls = module.calls ∧
      (module.step (.terminate answers)).dropped = true := by
  cases dropped : module.dropped with
  | true => exact dropped ▸ sound.step_dropped dropped (.terminate answers)
  | false =>
      rw [IpAddrModule.step, if_pos dropped]
      have terminated : Terminated ranges ((terminate answers).run module).2 :=
        terminate_terminated sound dropped
      exact ⟨terminated.empty.trans (sound.gone dropped).symm, rfl⟩

end Steps

theorem started_sound (dhcpRanges : List DhcpRange) (hasLeaseTime : Bool) :
    Sound dhcpRanges (started dhcpRanges hasLeaseTime) where
  ran := List.Sublist.refl declared
  applied := List.Sublist.refl dhcpRanges
  once := Nat.zero_le 1
  gone _ := rfl
  settled impossible := by cases impossible
  silent impossible := by cases impossible
  begun impossible := by cases impossible
  plain _ member := by cases member

theorem ends_of_sublist {α : Type} {front before after : List α} {last : α}
    (sub : (before ++ last :: after).Sublist (front ++ [last])) (absent : last ∉ front) :
    after = [] := by
  obtain ⟨_, behind, split, _, sub⟩ := List.append_sublist_iff.mp sub
  obtain ⟨upto, rest, rfl, found, sub⟩ := List.cons_sublist_iff.mp sub
  cases rest using List.reverseRecOn with
  | nil => exact List.sublist_nil.mp sub
  | append_singleton rest final =>
      rw [← List.append_assoc, ← List.append_assoc] at split
      have same := (List.append_inj' split rfl).1
      rw [same] at absent
      simp [found] at absent

section Runs

variable (dhcpRanges : List DhcpRange) (hasLeaseTime : Bool)

theorem run_append (module : IpAddrModule) (before after : List Event) :
    module.run (before ++ after) = (module.run before).run after :=
  List.foldl_append

/-- What holds of the sequence of tests in every run of it. -/
theorem ipAddr_sequence (events : List Event) :
    ((started dhcpRanges hasLeaseTime).run events).ran.Sublist declared ∧
    (∀ before after, ((started dhcpRanges hasLeaseTime).run events).ran =
      before ++ .analyze :: after → after = []) ∧
    ((started dhcpRanges hasLeaseTime).run events).applied.Sublist dhcpRanges ∧
    ((started dhcpRanges hasLeaseTime).run events).calls.length ≤ 1 ∧
    (∀ before answers after, events = before ++ .terminate answers :: after →
      ((started dhcpRanges hasLeaseTime).run events).calls =
        ((started dhcpRanges hasLeaseTime).run before).calls) ∧
    ∀ call ∈ ((started dhcpRanges hasLeaseTime).run events).calls, call.exception = none →
      ((started dhcpRanges hasLeaseTime).run events).dockerHost.startTime = true ∧
      ((started dhcpRanges hasLeaseTime).run events).dockerHost.completed = true := by
  have fresh := started_sound dhcpRanges hasLeaseTime
  have sound := fresh.run events
  have ran := (List.sublist_append_left _ _).trans sound.ran
  refine ⟨ran, ?_, (List.sublist_append_left _ _).trans sound.applied, sound.once, ?_,
    sound.plain⟩
  · intro before after split
    rw [split] at ran
    have last : declared =
        [.dhcpPortToggle, .multiSubnet, .ipChange, .dhcpChange] ++ [.analyze] := rfl
    rw [last] at ran
    exact ends_of_sublist ran (by decide)
  · rintro before answers after rfl
    have reached := fresh.run before
    have dropped := reached.terminate_dropped answers
    rw [run_append]
    exact ((reached.step (.terminate answers)).run_dropped dropped.2 after).trans dropped.1

end Runs

end Daq.IpAddr
