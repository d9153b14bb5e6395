import Daq.Runner.Retirement

namespace Daq

/-! The pool of set numbers against the history of taking and returning them,
in every run, the ones in which a gateway could not be ended included: the pool
is what is not out, nothing is taken that is out, and what is out was given to
a gateway that opened with it. -/

open Retirement

namespace Ledger

/-- The gateway opened with the number, which was not returned since. -/
def Granted (ledger : Ledger) (set : SetNumber) (gateway : GatewayId) : Prop :=
  ∃ before after, ledger.trail = before ++ .taken set :: .opened gateway :: after ∧
    .returned set ∉ after ∧ ledger.portSet gateway = set

def TakesFree (before : List Happening) (happening : Happening) : Prop :=
  ∀ set, happening = .taken set → ¬ Out set before

structure Accounted (ledger : Ledger) : Prop where
  free : ∀ set, set ∈ ledger.sets ↔ ¬ Out set ledger.trail
  made : ∀ gateway, .opened gateway ∈ ledger.trail → gateway < ledger.next
  takes : History.Always TakesFree ledger.trail
  granted : ∀ set, Out set ledger.trail → ∃ gateway, ledger.Granted set gateway

theorem Granted.opened {ledger : Ledger} {set : SetNumber} {gateway : GatewayId}
    (granted : ledger.Granted set gateway) : .opened gateway ∈ ledger.trail := by
  obtain ⟨before, after, trail, _, _⟩ := granted
  rw [trail]
  simp

/-- A grant lasts while the number is not returned and the gateway keeps it. -/
theorem Granted.append {ledger state : Ledger} {set : SetNumber} {gateway : GatewayId}
    {notes : List Happening} (granted : ledger.Granted set gateway)
    (trail : state.trail = ledger.trail ++ notes) (kept : .returned set ∉ notes)
    (portSet : state.portSet gateway = ledger.portSet gateway) : state.Granted set gateway := by
  obtain ⟨before, after, split, unreturned, number⟩ := granted
  refine ⟨before, after ++ notes, by rw [trail, split]; simp, ?_, portSet.trans number⟩
  intro member
  exact (List.mem_append.mp member).elim unreturned kept

end Ledger

namespace Retirement

variable {set : SetNumber} {trail notes : List Happening}

/-- Notes that neither take nor return the number leave it as it is. -/
theorem out_append (untaken : .taken set ∉ notes) (unreturned : .returned set ∉ notes) :
    Out set (trail ++ notes) ↔ Out set trail := by
  induction notes using List.reverseRecOn with
  | nil => rw [List.append_nil]
  | append_singleton notes last ih =>
      rw [List.mem_append, not_or, List.mem_singleton] at untaken unreturned
      unfold Out
      rw [← List.append_assoc, History.since_concat]
      have same := ih untaken.1 unreturned.1
      unfold Out at same
      rw [same]
      constructor
      · rintro (taken | out)
        · exact absurd taken.symm untaken.2
        · exact out.1
      · exact fun out => .inr ⟨out, fun returned => unreturned.2 returned.symm⟩

/-- A number that has just been returned is not out. -/
theorem not_out_returned : ¬ Out set (trail ++ [.returned set]) := by
  unfold Out
  rw [History.since_concat]
  rintro (taken | ⟨_, unreturned⟩)
  · cases taken
  · exact unreturned rfl

theorem out_taken : Out set (trail ++ [.taken set]) :=
  History.since_concat.mpr (.inl rfl)

end Retirement

namespace Ledger.Accounted

variable {ledger : Ledger}

theorem initial (native : Bool) : (Ledger.initial native).Accounted where
  free := fun set => iff_of_true (Finset.mem_univ set) History.not_since_nil
  made := fun _ => nofun
  takes := History.always_nil
  granted := fun _ out => absurd out History.not_since_nil

/-- Whatever neither takes a number, nor returns one, nor opens a gateway. -/
theorem aside (accounted : ledger.Accounted) {state : Ledger} {notes : List Happening}
    (trail : state.trail = ledger.trail ++ notes) (sets : state.sets = ledger.sets)
    (next : state.next = ledger.next) (portSet : state.portSet = ledger.portSet)
    (quiet : ∀ note ∈ notes, (∀ set, note ≠ .taken set ∧ note ≠ .returned set) ∧
      ∀ gateway, note ≠ .opened gateway) : state.Accounted := by
  have out : ∀ set, Out set state.trail ↔ Out set ledger.trail := by
    intro set
    rw [trail]
    apply out_append
    · exact fun member => ((quiet _ member).1 set).1 rfl
    · exact fun member => ((quiet _ member).1 set).2 rfl
  refine ⟨?_, ?_, ?_, ?_⟩
  · intro set
    rw [sets, out]
    exact accounted.free set
  · intro gateway member
    rw [trail, List.mem_append] at member
    rw [next]
    rcases member with old | new
    · exact accounted.made gateway old
    · exact absurd rfl ((quiet _ new).2 gateway)
  · rw [trail, History.always_append]
    refine ⟨accounted.takes, fun before note rest split set same => ?_⟩
    exact absurd same ((quiet note (split ▸ List.mem_append_right _ (.head _))).1 set).1
  · intro set gone
    obtain ⟨gateway, granted⟩ := accounted.granted set ((out set).mp gone)
    refine ⟨gateway, granted.append trail ?_ (congrFun portSet gateway)⟩
    exact fun member => ((quiet _ member).1 set).2 rfl

/-- A number is taken from the pool and a gateway opens with it. -/
theorem opened (accounted : ledger.Accounted) {set : SetNumber} (free : set ∈ ledger.sets) :
    ({ ledger with
      sets := ledger.sets.erase set
      next := ledger.next + 1
      targets := Function.update ledger.targets ledger.next .empty
      portSet := Function.update ledger.portSet ledger.next set
      trail := ledger.trail ++ [.taken set, .opened ledger.next] } : Ledger).Accounted := by
  have regroup : ledger.trail ++ [.taken set, .opened ledger.next] =
      ledger.trail ++ [.taken set] ++ [.opened ledger.next] := by simp
  have itself : Out set (ledger.trail ++ [.taken set, .opened ledger.next]) := by
    rw [regroup, out_append (by simp) (by simp)]
    exact out_taken
  have others : ∀ other, other ≠ set →
      (Out other (ledger.trail ++ [.taken set, .opened ledger.next]) ↔
        Out other ledger.trail) := by
    intro other different
    apply out_append
    · simpa using different
    · simp
  refine ⟨?_, ?_, ?_, ?_⟩
  · intro other
    by_cases same : other = set
    · subst same
      exact iff_of_false (Finset.notMem_erase _ _) (not_not_intro itself)
    · rw [others other same, ← accounted.free other, Finset.mem_erase]
      exact and_iff_right same
  · intro gateway member
    rcases List.mem_append.mp member with old | new
    · exact (accounted.made gateway old).trans (Nat.lt_succ_self _)
    · have latest : gateway = ledger.next := by simpa using new
      exact latest ▸ Nat.lt_succ_self _
  · rw [regroup, History.always_concat, History.always_concat]
    refine ⟨⟨accounted.takes, ?_⟩, fun _ => nofun⟩
    rintro _ ⟨⟩
    exact (accounted.free set).mp free
  · intro other gone
    by_cases same : other = set
    · subst same
      exact ⟨ledger.next, ledger.trail, [], rfl, List.not_mem_nil, Function.update_self _ _ _⟩
    · obtain ⟨gateway, granted⟩ := accounted.granted other ((others other same).mp gone)
      have earlier := (accounted.made gateway granted.opened).ne
      exact ⟨gateway, granted.append rfl (by simp) (Function.update_of_ne earlier _ _)⟩

/-- A number comes back to a pool. -/
theorem returned (accounted : ledger.Accounted) {state : Ledger} {set : SetNumber}
    {notes : List Happening} (trail : state.trail = ledger.trail ++ notes ++ [.returned set])
    (sets : state.sets = insert set ledger.sets) (next : ledger.next ≤ state.next)
    (portSet : ∀ gateway, gateway < ledger.next →
      state.portSet gateway = ledger.portSet gateway)
    (quiet : ∀ note ∈ notes, (∀ other, note ≠ .returned other) ∧
      (∀ other, note = .taken other → other = set ∧ other ∈ ledger.sets) ∧
      ∀ gateway, note ≠ .opened gateway)
    (takes : History.Always (fun before => TakesFree (ledger.trail ++ before)) notes) :
    state.Accounted := by
  have others : ∀ other, other ≠ set → (Out other state.trail ↔ Out other ledger.trail) := by
    intro other different
    rw [trail, List.append_assoc]
    apply out_append
    · rw [List.mem_append, not_or]
      exact ⟨fun member => different ((quiet _ member).2.1 other rfl).1, by simp⟩
    · rw [List.mem_append, not_or]
      exact ⟨fun member => (quiet _ member).1 other rfl, by simpa using different⟩
  have itself : ¬ Out set state.trail := by
    rw [trail]
    exact not_out_returned
  refine ⟨?_, ?_, ?_, ?_⟩
  · intro other
    rw [sets]
    by_cases same : other = set
    · subst same
      exact iff_of_true (Finset.mem_insert_self _ _) itself
    · rw [others other same, ← accounted.free other]
      exact Finset.mem_insert.trans (or_iff_right same)
  · intro gateway member
    have member : .opened gateway ∈ ledger.trail := by
      rw [trail, List.append_assoc] at member
      rcases List.mem_append.mp member with old | new
      · exact old
      · rcases List.mem_append.mp new with noted | last
        · exact absurd rfl ((quiet _ noted).2.2 gateway)
        · simp at last
    exact (accounted.made gateway member).trans_le next
  · rw [trail, List.append_assoc, History.always_append, History.always_append]
    refine ⟨accounted.takes, takes, ?_⟩
    rw [History.always_cons]
    exact ⟨fun _ => nofun, History.always_nil⟩
  · intro other gone
    have different : other ≠ set := fun same => itself (same ▸ gone)
    obtain ⟨gateway, granted⟩ := accounted.granted other ((others other different).mp gone)
    refine ⟨gateway, granted.append (trail.trans (List.append_assoc _ _ _)) ?_
      (portSet gateway (accounted.made gateway granted.opened))⟩
    rw [List.mem_append, not_or]
    exact ⟨fun member => (quiet _ member).1 other rfl, by simpa using different⟩

theorem step {config : Config} {reaps : Mac → Prop} {before after : Ledger}
    (step : Step config reaps before after) (accounted : before.Accounted) :
    after.Accounted := by
  cases step with
  | openUp set free => exact accounted.opened free
  | giveBack set free =>
      -- the number never left the pool
      have regroup : before.trail ++ [.taken set, .returned set] =
          before.trail ++ [.taken set] ++ [.returned set] := by simp
      refine accounted.returned regroup (Finset.insert_eq_self.mpr free).symm (Nat.le_succ _)
        (fun gateway earlier => Function.update_of_ne earlier.ne _ _) ?_ ?_
      · intro note member
        cases List.mem_singleton.mp member
        refine ⟨fun _ => nofun, fun other same => ?_, fun _ => nofun⟩
        cases same
        exact ⟨rfl, free⟩
      · rw [History.always_cons, List.append_nil]
        refine ⟨?_, History.always_nil⟩
        rintro _ ⟨⟩
        exact (accounted.free set).mp free
  | retire gateway device left empty =>
      have regroup : before.trail ++ [.terminated gateway, .returned (before.portSet gateway)] =
          before.trail ++ [.terminated gateway] ++ [.returned (before.portSet gateway)] := by simp
      refine accounted.returned regroup rfl le_rfl (fun _ _ => rfl) (by simp) ?_
      rw [History.always_cons]
      exact ⟨fun _ => nofun, History.always_nil⟩
  | suppress | converse | leave =>
      exact accounted.aside (List.append_nil _).symm rfl rfl rfl fun _ => nofun
  | finalize | trigger | enqueue | consider | cancel | create | attach | detach | terminate
  | reap => exact accounted.aside rfl rfl rfl rfl (by simp)
  | flap info time note _ cause =>
      rcases cause with rfl | rfl <;> exact accounted.aside rfl rfl rfl rfl (by simp)
  | settle info value notes _ cause =>
      rcases cause with rfl | rfl | rfl <;> exact accounted.aside rfl rfl rfl rfl (by simp)

end Ledger.Accounted

/-- In every reachable state the pool holds exactly the set numbers that were
not taken since they were last returned; no number was ever taken while it was
out, and one that is out belongs to a gateway that opened with it and still has
it. -/
theorem gatewaySets_accounted {env : Env} {world : World} (reached : Started env world) :
    (∀ set, set ∈ world.gatewaySets ↔ ¬ Out set world.trail) ∧
      (∀ before set after, world.trail = before ++ .taken set :: after → ¬ Out set before) ∧
      ∀ set, Out set world.trail → ∃ before gateway after,
        world.trail = before ++ .taken set :: .opened gateway :: after ∧
          .returned set ∉ after ∧ (world.gateways gateway).portSet = set := by
  have accounted : world.ledger.Accounted :=
    started_ledger Ledger.Accounted .initial (fun _ _ step => .step step) reached
  refine ⟨accounted.free, fun before set after split => ?_, fun set gone => ?_⟩
  · exact accounted.takes before _ after split set rfl
  · obtain ⟨gateway, before, after, granted⟩ := accounted.granted set gone
    exact ⟨before, gateway, after, granted⟩

/-- In the run the device is learned twice: the number is taken anew by the
gateway that is opened for it. -/
theorem Retirement.twiceLearned_accounted :
    Out ⟨1, Ledger.firstSet_numbered⟩ twiceLearned.trail ∧ ∃ before gateway after,
      twiceLearned.trail =
        before ++ .taken ⟨1, Ledger.firstSet_numbered⟩ :: .opened gateway :: after ∧
        .returned ⟨1, Ledger.firstSet_numbered⟩ ∉ after ∧
        (twiceLearned.gateways gateway).portSet = ⟨1, Ledger.firstSet_numbered⟩ := by
  have reached : Started (.quiet { secPort := 7 }) twiceLearned :=
    Reaches.foldl (fun _ _ => trivial) _
  have absent : ⟨1, Ledger.firstSet_numbered⟩ ∉ twiceLearned.gatewaySets := by decide +kernel
  obtain ⟨free, _, granted⟩ := gatewaySets_accounted reached
  have gone := not_not.mp (mt (free ⟨1, Ledger.firstSet_numbered⟩).mpr absent)
  exact ⟨gone, granted _ gone⟩

/-- The sets are spaced wider than the offsets used in them. -/
theorem switchPort_ne {one other : Gateway} (apart : one.portSet ≠ other.portSet)
    {offset offset' : Nat} (within : offset < 10) (within' : offset' < 10) :
    switchPort one offset ≠ switchPort other offset' := by
  intro same
  apply apart
  apply Subtype.ext
  unfold switchPort at same
  omega

/-- In the runs of `gateways_live`, the gateways that were opened and not ended
share no switch port with each other, and the number of none of them is in the
pool. -/
theorem live_gateways_apart {env : Env} {world : World} (reached : Started env world)
    (straight : ∀ gateway device, Happening.attached gateway device true ∉ world.trail)
    (kept : ∀ gateway device, world.nativeGateway = some gateway →
      Happening.detached gateway device 0 ∉ world.trail) :
    ∀ one, .opened one ∈ world.trail → .terminated one ∉ world.trail →
      (world.gateways one).portSet ∉ world.gatewaySets ∧
        ∀ other, .opened other ∈ world.trail → .terminated other ∉ world.trail → one ≠ other →
          ∀ offset < 10, ∀ offset' < 10,
            switchPort (world.gateways one) offset ≠
              switchPort (world.gateways other) offset' := by
  have tended : world.ledger.Straight → world.ledger.Tended :=
    started_ledger (fun ledger => ledger.Straight → ledger.Tended)
      (fun native _ => .initial native)
      (fun _ _ step earlier straight => .step step straight (earlier (straight.of_step step)))
      reached
  have tended := tended ⟨straight, kept⟩
  intro one opened unended
  refine ⟨(tended.out one ⟨opened, unended⟩).2, fun other opened' unended' different => ?_⟩
  have apart : (world.gateways one).portSet ≠ (world.gateways other).portSet :=
    fun same => different (tended.apart one other ⟨opened, unended⟩ ⟨opened', unended'⟩ same)
  exact fun offset within offset' within' => switchPort_ne apart within within'

namespace Retirement

/-- Two devices are learned, and a gateway opens for each. -/
def bothLearned : World :=
  ([.receive (.event (.portState 1 1 true)), .receive (.event (.portState 2 1 true)),
    .receive (.event (.portState 2 2 true)),
    .receive (.event (.portLearn 2 1 "9a:02:57:1e:8f:01" 10)),
    .receive (.event (.portLearn 2 2 "9a:02:57:1e:8f:02" 10)), .faucet] : List Command).foldl
      (fun state command => command.step (.quiet { secPort := 7 }) state)
      (startWorld (.quiet { secPort := 7 }))

theorem bothLearned_apart :
    (bothLearned.gateways 0).portSet ∉ bothLearned.gatewaySets ∧
      switchPort (bothLearned.gateways 0) 2 ≠ switchPort (bothLearned.gateways 1) 3 := by
  have straight : ∀ happening ∈ bothLearned.trail, leavesStray happening = false := by
    decide +kernel
  have unshared : bothLearned.nativeGateway = none := by decide +kernel
  obtain ⟨gone, apart⟩ := live_gateways_apart
    (Reaches.foldl (fun _ _ => trivial) _ : Started (.quiet { secPort := 7 }) bothLearned)
    (fun gateway device member => by cases straight _ member)
    (fun gateway device native => by cases unshared.symm.trans native)
    0 (by decide +kernel) (by decide +kernel)
  exact ⟨gone, apart 1 (by decide +kernel) (by decide +kernel) (by decide) 2 (by decide) 3
    (by decide)⟩

end Retirement

end Daq
