import Daq.Runner.CommandSimulation
import Mathlib.Data.List.Pairwise

namespace Daq

/-! The target queue against its history: who waits in which order, and who
leaves it when.  A slot that becomes free goes to whoever is triggered or
considered first, so only devices that went through the queue keep their
order. -/

namespace Overtaking

/-- The device leaves the queue, if it was there. -/
def Leaves (device : DeviceId) (happening : Happening) : Prop :=
  happening = .cancelled device ∨ ∃ popped waiting, happening = .activated device popped waiting

/-- The device was queued and has not left the queue since. -/
def Waits (device : DeviceId) : List Happening → Prop :=
  History.Since (· = .queued device) (Leaves device)

/-- The last time the first device was queued comes before the last time the
second one was. -/
def QueuedBefore (trail : List Happening) (first second : DeviceId) : Prop :=
  ∀ before since, trail = before ++ .queued second :: since → .queued second ∉ since →
    .queued first ∈ before ∧ .queued first ∉ since

def QueuesTriggered (before : List Happening) (happening : Happening) : Prop :=
  ∀ device, happening = .queued device → .triggered device ∈ before

def QueuesAbsent (before : List Happening) (happening : Happening) : Prop :=
  ∀ device, happening = .queued device → ¬ Waits device before

/-- Whoever is left waiting was last queued after the activated device was
first triggered. -/
def InTurn (device : DeviceId) (waiting : List DeviceId) (before : List Happening) : Prop :=
  ∀ other ∈ waiting, other ≠ device → ∃ first since, before = first ++ .queued other :: since ∧
    .queued other ∉ since ∧ .triggered device ∈ first

/-- A device that waited leaves the queue after whoever was queued before it. -/
def InOrder (device : DeviceId) (before : List Happening) : Prop :=
  ∀ first since, before = first ++ .queued device :: since →
    (∀ happening ∈ since, ¬ Leaves device happening) →
    ∀ other earlier later, other ≠ device → first = earlier ++ .queued other :: later →
      ∃ happening ∈ later ++ .queued device :: since, Leaves other happening

def PopsInTurn (before : List Happening) (happening : Happening) : Prop :=
  ∀ device waiting, happening = .activated device true waiting → InTurn device waiting before

def ActivatesInOrder (before : List Happening) (happening : Happening) : Prop :=
  ∀ device popped waiting, happening = .activated device popped waiting → InOrder device before

/-- The queue is what its history makes of it. -/
structure Queues (queue : List DeviceId) (trail : List Happening) : Prop where
  distinct : queue.Nodup
  entered : ∀ device ∈ queue,
    History.Since (· = .queued device) (· = .queued device) trail
  ordered : queue.Pairwise (QueuedBefore trail)
  waits : ∀ device, Waits device trail → device ∈ queue
  triggered : History.Always QueuesTriggered trail
  absent : History.Always QueuesAbsent trail
  inTurn : History.Always PopsInTurn trail
  inOrder : History.Always ActivatesInOrder trail

theorem QueuedBefore.concat {trail : List Happening} {first second : DeviceId}
    {note : Happening} (before : QueuedBefore trail first second) (one : note ≠ .queued first)
    (two : note ≠ .queued second) : QueuedBefore (trail ++ [note]) first second := by
  intro start since split last
  rcases History.split_concat split with ⟨_, same, _⟩ | ⟨rest, rfl, earlier⟩
  · exact absurd same.symm two
  · obtain ⟨member, unrepeated⟩ := before start rest earlier fun later =>
      last (List.mem_append_left _ later)
    refine ⟨member, fun repeated => ?_⟩
    rcases List.mem_append.mp repeated with old | new
    · exact unrepeated old
    · exact one (List.mem_singleton.mp new).symm

namespace Queues

variable {queue : List DeviceId} {trail : List Happening}

theorem nil : Queues [] [] where
  distinct := List.nodup_nil
  entered := fun _ => nofun
  ordered := .nil
  waits := fun _ waits => absurd waits History.not_since_nil
  triggered := History.always_nil
  absent := History.always_nil
  inTurn := History.always_nil
  inOrder := History.always_nil

/-- Something that is not about the queue. -/
theorem aside (queues : Queues queue trail) {note : Happening}
    (unqueued : ∀ device, note ≠ .queued device)
    (unactivated : ∀ device popped waiting, note ≠ .activated device popped waiting) :
    Queues queue (trail ++ [note]) where
  distinct := queues.distinct
  entered := fun device member =>
    History.since_concat.mpr (.inr ⟨queues.entered device member, unqueued device⟩)
  ordered := queues.ordered.imp fun before => before.concat (unqueued _) (unqueued _)
  waits := by
    intro device waits
    rcases History.since_concat.mp waits with same | ⟨earlier, _⟩
    · exact absurd same (unqueued device)
    · exact queues.waits device earlier
  triggered := History.always_concat.mpr ⟨queues.triggered, fun device same =>
    absurd same (unqueued device)⟩
  absent := History.always_concat.mpr ⟨queues.absent, fun device same =>
    absurd same (unqueued device)⟩
  inTurn := History.always_concat.mpr ⟨queues.inTurn, fun device waiting same =>
    absurd same (unactivated device true waiting)⟩
  inOrder := History.always_concat.mpr ⟨queues.inOrder, fun device popped waiting same =>
    absurd same (unactivated device popped waiting)⟩

theorem asides (queues : Queues queue trail) (notes : List Happening)
    (quiet : ∀ note ∈ notes, (∀ device, note ≠ .queued device) ∧
      ∀ device popped waiting, note ≠ .activated device popped waiting) :
    Queues queue (trail ++ notes) := by
  induction notes generalizing trail with
  | nil => rwa [List.append_nil]
  | cons note rest later =>
      obtain ⟨unqueued, unactivated⟩ := quiet note (.head _)
      have whole := later (queues.aside unqueued unactivated) fun other member =>
        quiet other (.tail _ member)
      rwa [List.append_assoc] at whole

theorem queued_mem (queues : Queues queue trail) {device : DeviceId} (member : device ∈ queue) :
    .queued device ∈ trail := by
  obtain ⟨before, mark, after, split, rfl, _⟩ := queues.entered device member
  exact split ▸ List.mem_append_right _ (.head _)

theorem enqueued (queues : Queues queue trail) {device : DeviceId} (unqueued : device ∉ queue)
    (asked : .triggered device ∈ trail) : Queues (queue ++ [device]) (trail ++ [.queued device]) where
  distinct := by
    refine List.nodup_append.mpr ⟨queues.distinct, List.nodup_singleton _, ?_⟩
    rintro other member last new rfl
    exact unqueued (List.mem_singleton.mp new ▸ member)
  entered := by
    intro other member
    rw [History.since_concat]
    rcases List.mem_append.mp member with old | new
    · refine .inr ⟨queues.entered other old, ?_⟩
      rintro ⟨⟩
      exact unqueued old
    · exact .inl (List.mem_singleton.mp new ▸ rfl)
  ordered := by
    refine List.pairwise_append.mpr ⟨?_, List.pairwise_singleton _ _, ?_⟩
    · refine queues.ordered.imp_of_mem fun one two before => before.concat ?_ ?_
      · rintro ⟨⟩
        exact unqueued one
      · rintro ⟨⟩
        exact unqueued two
    · intro other member last new start since split once
      cases List.mem_singleton.mp new
      rcases History.split_concat split with ⟨rfl, _, rfl⟩ | ⟨rest, rfl, _⟩
      · exact ⟨queues.queued_mem member, nofun⟩
      · exact absurd (List.mem_append_right _ (.head _)) once
  waits := by
    intro other waits
    rcases History.since_concat.mp waits with same | ⟨earlier, _⟩
    · cases same
      exact List.mem_append_right _ (.head _)
    · exact List.mem_append_left _ (queues.waits other earlier)
  triggered := by
    refine History.always_concat.mpr ⟨queues.triggered, ?_⟩
    rintro _ ⟨⟩
    exact asked
  absent := by
    refine History.always_concat.mpr ⟨queues.absent, ?_⟩
    rintro _ ⟨⟩ waits
    exact unqueued (queues.waits device waits)
  inTurn := History.always_concat.mpr ⟨queues.inTurn, fun _ _ => nofun⟩
  inOrder := History.always_concat.mpr ⟨queues.inOrder, fun _ _ _ => nofun⟩

/-- A device leaves the queue. -/
theorem left (queues : Queues queue trail) {device : DeviceId} {note : Happening}
    (leaves : Leaves device note) (inTurn : PopsInTurn trail note)
    (inOrder : ActivatesInOrder trail note) :
    Queues (queue.erase device) (trail ++ [note]) where
  distinct := queues.distinct.erase device
  entered := by
    intro other member
    refine History.since_concat.mpr
      (.inr ⟨queues.entered other (List.mem_of_mem_erase member), ?_⟩)
    rcases leaves with rfl | ⟨_, _, rfl⟩ <;> exact nofun
  ordered := by
    refine (queues.ordered.sublist List.erase_sublist).imp fun before => before.concat ?_ ?_
    all_goals rcases leaves with rfl | ⟨_, _, rfl⟩ <;> exact nofun
  waits := by
    intro other waits
    rcases History.since_concat.mp waits with same | ⟨earlier, stays⟩
    · rcases leaves with rfl | ⟨_, _, rfl⟩ <;> cases same
    · have different : other ≠ device := by
        rintro rfl
        exact stays leaves
      exact (List.mem_erase_of_ne different).mpr (queues.waits other earlier)
  triggered := by
    refine History.always_concat.mpr ⟨queues.triggered, ?_⟩
    rcases leaves with rfl | ⟨_, _, rfl⟩ <;> exact fun _ => nofun
  absent := by
    refine History.always_concat.mpr ⟨queues.absent, ?_⟩
    rcases leaves with rfl | ⟨_, _, rfl⟩ <;> exact fun _ => nofun
  inTurn := History.always_concat.mpr ⟨queues.inTurn, inTurn⟩
  inOrder := History.always_concat.mpr ⟨queues.inOrder, inOrder⟩

theorem cancelled (queues : Queues queue trail) (device : DeviceId) :
    Queues (queue.erase device) (trail ++ [.cancelled device]) :=
  queues.left (.inl rfl) (fun _ _ => nofun) fun _ _ _ => nofun

/-- A device that does not wait is activated at once. -/
theorem directed (queues : Queues queue trail) {device : DeviceId} (unqueued : device ∉ queue)
    (waiting : List DeviceId) : Queues queue (trail ++ [.activated device false waiting]) := by
  have leaves : Leaves device (.activated device false waiting) := .inr ⟨_, _, rfl⟩
  have left := queues.left leaves (fun _ _ => nofun) (by
    rintro _ _ _ ⟨⟩ first since split stays
    exact absurd (queues.waits device ⟨first, _, since, split, rfl, stays⟩) unqueued)
  rwa [List.erase_of_not_mem unqueued] at left

theorem pops_inTurn {device : DeviceId} (queues : Queues (device :: queue) trail) :
    InTurn device queue trail := by
  intro other member _
  obtain ⟨first, mark, since, split, rfl, last⟩ := queues.entered other (.tail _ member)
  refine ⟨first, since, split, fun again => last _ again rfl, ?_⟩
  have before := (List.pairwise_cons.mp queues.ordered).1 other member
  obtain ⟨earlier, later, same⟩ :=
    List.append_of_mem (before first since split fun again => last _ again rfl).1
  have asked : .triggered device ∈ earlier := by
    refine queues.triggered earlier _ (later ++ .queued other :: since) ?_ device rfl
    rw [split, same, List.append_assoc, List.cons_append]
  exact same ▸ List.mem_append_left _ asked

/-- Whoever was queued before the head of the queue and never left would be
ahead of it. -/
theorem pops_inOrder {device : DeviceId} (queues : Queues (device :: queue) trail) :
    InOrder device trail := by
  rintro _ since split _ other earlier later different rfl
  by_contra stayed
  have stays : ∀ happening ∈ later ++ .queued device :: since, ¬ Leaves other happening :=
    fun happening member leaves => stayed ⟨happening, member, leaves⟩
  rw [List.append_assoc, List.cons_append] at split
  have waiting : other ∈ device :: queue :=
    queues.waits other ⟨earlier, _, _, split, rfl, stays⟩
  have behind : other ∈ queue := (List.mem_cons.mp waiting).resolve_left different
  have once : .queued other ∉ later ++ .queued device :: since := by
    intro again
    obtain ⟨between, rest, same⟩ := List.append_of_mem again
    refine queues.absent (earlier ++ .queued other :: between) _ rest ?_ other rfl
      ⟨earlier, _, between, rfl, rfl, fun happening member => ?_⟩
    · rw [split, same, List.append_assoc, List.cons_append]
    · exact stays happening (same ▸ List.mem_append_left _ member)
  have ahead := (List.pairwise_cons.mp queues.ordered).1 other behind
  exact (ahead earlier _ split once).2 (List.mem_append_right _ (.head _))

theorem popped {device : DeviceId} (queues : Queues (device :: queue) trail) :
    Queues queue (trail ++ [.activated device true queue]) := by
  have leaves : Leaves device (.activated device true queue) := .inr ⟨_, _, rfl⟩
  have left := queues.left leaves (by
    rintro _ _ ⟨⟩
    exact queues.pops_inTurn) (by
    rintro _ _ _ ⟨⟩
    exact queues.pops_inOrder)
  rwa [List.erase_cons_head] at left

theorem step {config : Config} {reaps : Mac → Prop} {before after : Ledger}
    (step : Ledger.Step config reaps before after) (queues : Queues before.queue before.trail) :
    Queues after.queue after.trail := by
  cases step with
  | trigger device _ unqueued =>
      have asked : Queues before.queue (before.trail ++ [.triggered device]) :=
        queues.aside (fun _ => nofun) fun _ _ _ => nofun
      have directed := asked.directed unqueued before.queue
      rwa [List.append_assoc] at directed
  | enqueue device unqueued =>
      have asked : Queues before.queue (before.trail ++ [.triggered device]) :=
        queues.aside (fun _ => nofun) fun _ _ _ => nofun
      have entered := asked.enqueued unqueued (List.mem_append_right _ (.head _))
      rwa [List.append_assoc] at entered
  | consider device rest first =>
      rw [first] at queues
      exact queues.popped
  | cancel device => exact queues.cancelled device
  | suppress | converse | leave => exact queues
  | finalize | create | openUp | giveBack | attach | detach | terminate | retire | reap =>
      exact queues.asides _ (by simp)
  | flap info time note _ cause =>
      rcases cause with rfl | rfl <;> exact queues.asides _ (by simp)
  | settle info value notes _ cause =>
      rcases cause with rfl | rfl | rfl <;> exact queues.asides _ (by simp)

end Queues

end Overtaking

/-- For every run in which a device is only activated at once while nobody
waits: when a device is activated, whoever still waits was queued after the
device was first triggered; and a device that waited is activated after
whoever was queued before it, unless that one was cancelled. -/
theorem activated_in_turn {env : Env} {world : World} (reached : Started env world)
    (directed : ∀ before device waiting after,
      world.trail = before ++ .activated device false waiting :: after → waiting = []) :
    ∀ before device popped waiting after,
      world.trail = before ++ .activated device popped waiting :: after →
      (∀ other ∈ waiting, other ≠ device → ∃ first since,
        before = first ++ .queued other :: since ∧ .queued other ∉ since ∧
          .triggered device ∈ first) ∧
      ∀ first since, before = first ++ .queued device :: since →
        (∀ happening ∈ since, happening ≠ .cancelled device ∧
          ∀ popped waiting, happening ≠ .activated device popped waiting) →
        ∀ other earlier later, other ≠ device → first = earlier ++ .queued other :: later →
          ∃ happening ∈ later ++ .queued device :: since, happening = .cancelled other ∨
            ∃ popped waiting, happening = .activated other popped waiting := by
  have queues : Overtaking.Queues world.targetSetQueue world.trail :=
    started_ledger (fun ledger => Overtaking.Queues ledger.queue ledger.trail)
      (fun _ => Overtaking.Queues.nil) (fun _ _ step => .step step) reached
  intro before device popped waiting after split
  refine ⟨?_, fun first since asked stays => ?_⟩
  · cases popped with
    | true => exact queues.inTurn before _ after split device waiting rfl
    | false =>
        rw [directed before device waiting after split]
        exact fun _ => nofun
  · refine queues.inOrder before _ after split device popped waiting rfl first since asked ?_
    rintro happening member (cancelled | ⟨taken, rest, activated⟩)
    · exact (stays happening member).1 cancelled
    · exact (stays happening member).2 taken rest activated

namespace Overtaking

def oneByOneConfig : Config := { secPort := 7, maxHosts := some 1 }

/-- The runner after these commands, with room for one host. -/
def afterCommands (commands : List Command) : World :=
  commands.foldl (fun state command => command.step (.quiet oneByOneConfig) state)
    (startWorld (.quiet oneByOneConfig))

theorem afterCommands_started (commands : List Command) :
    Started (.quiet oneByOneConfig) (afterCommands commands) :=
  Reaches.foldl (fun _ _ => trivial) _

/-- Two devices are learned, the second of which has to wait. -/
def twoLearned : List Command :=
  [.receive (.event (.portState 1 1 true)), .receive (.event (.portState 2 1 true)),
    .receive (.event (.portState 2 2 true)), .receive (.event (.portState 2 3 true)),
    .receive (.event (.portLearn 2 1 "9a:02:57:1e:8f:01" 10)),
    .receive (.event (.portLearn 2 2 "9a:02:57:1e:8f:02" 10)), .faucet]

def thirdLearned : List Command :=
  [.receive (.event (.portLearn 2 3 "9a:02:57:1e:8f:03" 10)), .faucet]

/-- The first device fails because its port goes down. -/
def firstGone : List Command :=
  [.receive (.event (.portState 2 1 false)), .faucet, .reap]

/-- Both of the others wait when the first device is gone. -/
def inLine : World := afterCommands (twoLearned ++ thirdLearned ++ firstGone ++ [.idle])

/-- Who waits while a device is activated at once. -/
def overtaken : Happening → List DeviceId
  | .activated _ false waiting => waiting
  | _ => []

theorem inLine_in_turn :
    ∃ first since, inLine.trail.take 20 = first ++ .queued 2 :: since ∧ .queued 2 ∉ since ∧
      .triggered 1 ∈ first := by
  have popped : inLine.trail =
      inLine.trail.take 20 ++ .activated 1 true [2] :: inLine.trail.drop 21 := by decide +kernel
  have free : ∀ happening ∈ inLine.trail, overtaken happening = [] := by decide +kernel
  refine (activated_in_turn (afterCommands_started _) ?_ _ 1 true [2] _ popped).1 2 (by decide)
    (by decide)
  intro before device waiting after split
  exact free (.activated device false waiting) (split ▸ List.mem_append_right _ (.head _))

/-- The third device comes when the first one is gone, and does not wait. -/
def passedBy : World := afterCommands (twoLearned ++ firstGone ++ thirdLearned)

theorem waiting_device_overtaken :
    ¬ ∀ (env : Env) (world : World), Started env world → Truthy env.config.maxHosts →
      ∀ before device popped waiting after,
        world.trail = before ++ .activated device popped waiting :: after →
        ∀ other ∈ waiting, other ≠ device → ∃ first since,
          before = first ++ .queued other :: since ∧ .queued other ∉ since ∧
            .triggered device ∈ first := by
  intro always
  have activated : passedBy.trail =
      passedBy.trail.take 19 ++ .activated 2 false [1] :: passedBy.trail.drop 20 := by
    decide +kernel
  obtain ⟨first, since, split, _, asked⟩ := always _ _ (afterCommands_started _) (by decide) _ 2
    false [1] _ activated 1 (by decide) (by decide)
  have ordered : [Happening.triggered 2, .queued 1].Sublist (passedBy.trail.take 19) := by
    rw [split]
    exact (List.singleton_sublist.mpr asked).append (List.singleton_sublist.mpr (.head _))
  revert ordered
  decide +kernel

end Overtaking

end Daq
