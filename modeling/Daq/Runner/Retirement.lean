import Daq.Runner.CommandSimulation

namespace Daq

/-! Gateways from their opening to their end, against the pool of set numbers.
The native gateway was never taken from the pool and is still offered after its
end; any other gateway is found through the devices that have it, which are its
targets unless taking one of them down was cut short. -/

namespace Retirement

/-- The number was taken from the pool and has not been returned since. -/
def Out (set : SetNumber) : List Happening → Prop :=
  History.Since (· = .taken set) (· = .returned set)

def AttachesLive (before : List Happening) (happening : Happening) : Prop :=
  ∀ gateway device stray, happening = .attached gateway device stray →
    .terminated gateway ∉ before

def ReturnsOut (before : List Happening) (happening : Happening) : Prop :=
  ∀ set, happening = .returned set → Out set before

def OpensLive (before : List Happening) (happening : Happening) : Prop :=
  ∀ gateway, happening = .opened gateway → .terminated gateway ∉ before

/-- A gateway that loses a device was opened, or is the native one, and has not
ended. -/
def DetachesLive (native : Option GatewayId) (before : List Happening)
    (happening : Happening) : Prop :=
  ∀ gateway device remaining, happening = .detached gateway device remaining →
    .terminated gateway ∉ before ∧ (native = some gateway ∨ .opened gateway ∈ before)

end Retirement

open Retirement

namespace Ledger

/-- No device was attached to a gateway that a device has without being its
target, and the native gateway never lost its last device. -/
def Straight (ledger : Ledger) : Prop :=
  (∀ gateway device, Happening.attached gateway device true ∉ ledger.trail) ∧
    ∀ gateway device, ledger.native = some gateway →
      Happening.detached gateway device 0 ∉ ledger.trail

/-- The gateway was opened and has not ended. -/
def Live (ledger : Ledger) (gateway : GatewayId) : Prop :=
  .opened gateway ∈ ledger.trail ∧ .terminated gateway ∉ ledger.trail

structure Tended (ledger : Ledger) : Prop where
  ended : ∀ gateway, .terminated gateway ∈ ledger.trail →
    (ledger.targets gateway).size = 0 ∧ ledger.native ≠ some gateway ∧
      .opened gateway ∈ ledger.trail
  held : ∀ gateway, (ledger.targets gateway).size ≠ 0 →
    ledger.native = some gateway ∨ .opened gateway ∈ ledger.trail
  made : ∀ gateway, .opened gateway ∈ ledger.trail → gateway < ledger.next
  out : ∀ gateway, ledger.Live gateway →
    Out (ledger.portSet gateway) ledger.trail ∧ ledger.portSet gateway ∉ ledger.sets
  apart : ∀ one other, ledger.Live one → ledger.Live other →
    ledger.portSet one = ledger.portSet other → one = other
  opens : History.Always OpensLive ledger.trail
  detaches : History.Always (DetachesLive ledger.native) ledger.trail
  attaches : History.Always AttachesLive ledger.trail
  returns : History.Always ReturnsOut ledger.trail

theorem Step.grows {config : Config} {reaps : Mac → Prop} {before after : Ledger}
    (step : Step config reaps before after) :
    (∃ notes, after.trail = before.trail ++ notes) ∧ after.native = before.native := by
  cases step with
  | suppress | converse | leave => exact ⟨⟨[], (List.append_nil _).symm⟩, rfl⟩
  | finalize | trigger | enqueue | consider | cancel | create | openUp | giveBack | attach
  | detach | terminate | retire | flap | settle | reap => exact ⟨⟨_, rfl⟩, rfl⟩

theorem Straight.of_step {config : Config} {reaps : Mac → Prop} {before after : Ledger}
    (straight : after.Straight) (step : Step config reaps before after) : before.Straight := by
  obtain ⟨⟨notes, trail⟩, native⟩ := step.grows
  refine ⟨fun gateway device member => straight.1 gateway device ?_,
    fun gateway device own member => straight.2 gateway device (native.trans own) ?_⟩
  · exact trail ▸ List.mem_append_left _ member
  · exact trail ▸ List.mem_append_left _ member

namespace Tended

variable {ledger : Ledger}

theorem initial (native : Bool) : (Ledger.initial native).Tended where
  ended := fun _ => nofun
  held := fun _ filled => absurd rfl filled
  made := fun _ => nofun
  out := fun _ live => nomatch live.1
  apart := fun _ _ live => nomatch live.1
  opens := History.always_nil
  detaches := History.always_nil
  attaches := History.always_nil
  returns := History.always_nil

/-- A number that is free belongs to no live gateway. -/
theorem portSet_ne (tended : ledger.Tended) {gateway : GatewayId} {set : SetNumber}
    (live : ledger.Live gateway) (free : set ∈ ledger.sets) : ledger.portSet gateway ≠ set := by
  rintro rfl
  exact (tended.out gateway live).2 free

/-- What keeps the invariant while no gateway is opened or ends. -/
theorem kept (tended : ledger.Tended) {after : Ledger} {notes : List Happening}
    (trail : after.trail = ledger.trail ++ notes) (sets : after.sets = ledger.sets)
    (next : ledger.next ≤ after.next) (native : after.native = ledger.native)
    (portSet : ∀ gateway, .opened gateway ∈ ledger.trail →
      after.portSet gateway = ledger.portSet gateway)
    (empty : ∀ gateway, .terminated gateway ∈ ledger.trail → (after.targets gateway).size = 0)
    (held : ∀ gateway, (after.targets gateway).size ≠ 0 →
      ledger.native = some gateway ∨ .opened gateway ∈ ledger.trail)
    (quiet : ∀ note ∈ notes, ∀ gateway, note ≠ .opened gateway ∧ note ≠ .terminated gateway)
    (free : ∀ set, .returned set ∈ notes → set ∈ ledger.sets)
    (detaches : History.Always
      (fun before => DetachesLive ledger.native (ledger.trail ++ before)) notes)
    (attaches : History.Always (fun before => AttachesLive (ledger.trail ++ before)) notes)
    (returns : History.Always (fun before => ReturnsOut (ledger.trail ++ before)) notes) :
    after.Tended := by
  have opened : ∀ gateway, .opened gateway ∈ after.trail ↔ .opened gateway ∈ ledger.trail := by
    intro gateway
    rw [trail, List.mem_append]
    exact or_iff_left fun new => (quiet _ new gateway).1 rfl
  have terminated : ∀ gateway,
      .terminated gateway ∈ after.trail ↔ .terminated gateway ∈ ledger.trail := by
    intro gateway
    rw [trail, List.mem_append]
    exact or_iff_left fun new => (quiet _ new gateway).2 rfl
  have live : ∀ gateway, after.Live gateway ↔ ledger.Live gateway := by
    intro gateway
    unfold Live
    rw [opened, terminated]
  refine ⟨?_, ?_, ?_, ?_, ?_, ?_, ?_, ?_, ?_⟩
  · intro gateway member
    obtain ⟨_, foreign, made⟩ := tended.ended gateway ((terminated gateway).mp member)
    rw [native, opened]
    exact ⟨empty gateway ((terminated gateway).mp member), foreign, made⟩
  · intro gateway filled
    rw [native, opened]
    exact held gateway filled
  · intro gateway member
    exact (tended.made gateway ((opened gateway).mp member)).trans_le next
  · intro gateway alive
    have alive := (live gateway).mp alive
    obtain ⟨out, absent⟩ := tended.out gateway alive
    rw [portSet gateway alive.1, sets, trail]
    refine ⟨out.append fun note member same => ?_, absent⟩
    exact tended.portSet_ne alive (free _ (same ▸ member)) rfl
  · intro one other alive alive' equal
    have alive := (live one).mp alive
    have alive' := (live other).mp alive'
    rw [portSet one alive.1, portSet other alive'.1] at equal
    exact tended.apart one other alive alive' equal
  all_goals rw [trail, History.always_append]
  · refine ⟨tended.opens, fun before note rest split gateway same => ?_⟩
    exact absurd same (quiet note (split ▸ List.mem_append_right _ (.head _)) gateway).1
  · rw [native]
    exact ⟨tended.detaches, detaches⟩
  · exact ⟨tended.attaches, attaches⟩
  · exact ⟨tended.returns, returns⟩

/-- Something that is not about gateways. -/
theorem aside (tended : ledger.Tended) {after : Ledger} {notes : List Happening}
    (trail : after.trail = ledger.trail ++ notes) (sets : after.sets = ledger.sets)
    (next : after.next = ledger.next) (native : after.native = ledger.native)
    (targets : after.targets = ledger.targets) (portSet : after.portSet = ledger.portSet)
    (quiet : ∀ note ∈ notes, (∀ set, note ≠ .returned set) ∧
      (∀ gateway, note ≠ .opened gateway ∧ note ≠ .terminated gateway) ∧
      ∀ gateway device, (∀ stray, note ≠ .attached gateway device stray) ∧
        ∀ remaining, note ≠ .detached gateway device remaining) : after.Tended := by
  have listed : ∀ {before rest : List Happening} {note : Happening},
      notes = before ++ note :: rest → note ∈ notes := fun split =>
    split ▸ List.mem_append_right _ (.head _)
  refine tended.kept trail sets next.ge native ?_ ?_ ?_ ?_ ?_ ?_ ?_ ?_
  · exact fun gateway _ => congrFun portSet gateway
  · intro gateway ended
    rw [targets]
    exact (tended.ended gateway ended).1
  · intro gateway filled
    exact tended.held gateway (targets ▸ filled)
  · exact fun note member => (quiet note member).2.1
  · exact fun set member => absurd rfl ((quiet _ member).1 set)
  · exact fun _ note _ split gateway device remaining same =>
      absurd same (((quiet note (listed split)).2.2 gateway device).2 remaining)
  · exact fun _ note _ split gateway device stray same =>
      absurd same (((quiet note (listed split)).2.2 gateway device).1 stray)
  · exact fun _ note _ split set same => absurd same ((quiet note (listed split)).1 set)

theorem next_unopened (tended : ledger.Tended) : .opened ledger.next ∉ ledger.trail :=
  fun opened => lt_irrefl _ (tended.made ledger.next opened)

theorem next_unended (tended : ledger.Tended) : .terminated ledger.next ∉ ledger.trail :=
  fun ended => tended.next_unopened (tended.ended ledger.next ended).2.2

/-- A gateway was built: nothing changes for those that were opened before. -/
theorem built (tended : ledger.Tended) {gateway : GatewayId} (set : SetNumber)
    (earlier : .opened gateway ∈ ledger.trail) :
    Function.update ledger.portSet ledger.next set gateway = ledger.portSet gateway :=
  Function.update_of_ne (tended.made gateway earlier).ne _ _

theorem built_filled {gateway : GatewayId}
    (filled : (Function.update ledger.targets ledger.next .empty gateway).size ≠ 0) :
    (ledger.targets gateway).size ≠ 0 := by
  by_cases same : gateway = ledger.next
  · subst same
    rw [Function.update_self] at filled
    exact absurd rfl filled
  · rwa [Function.update_of_ne same] at filled

theorem built_empty {gateway : GatewayId} (empty : (ledger.targets gateway).size = 0) :
    (Function.update ledger.targets ledger.next .empty gateway).size = 0 := by
  by_contra filled
  exact built_filled filled empty

theorem opened (tended : ledger.Tended) {set : SetNumber} (free : set ∈ ledger.sets) :
    ({ ledger with
      sets := ledger.sets.erase set
      next := ledger.next + 1
      targets := Function.update ledger.targets ledger.next .empty
      portSet := Function.update ledger.portSet ledger.next set
      trail := ledger.trail ++ [.taken set, .opened ledger.next] } : Ledger).Tended := by
  generalize after : ({ ledger with
      sets := ledger.sets.erase set
      next := ledger.next + 1
      targets := Function.update ledger.targets ledger.next .empty
      portSet := Function.update ledger.portSet ledger.next set
      trail := ledger.trail ++ [.taken set, .opened ledger.next] } : Ledger) = state
  have trail : state.trail = ledger.trail ++ [.taken set, .opened ledger.next] := by rw [← after]
  have terminated : ∀ gateway,
      .terminated gateway ∈ state.trail ↔ .terminated gateway ∈ ledger.trail := by
    intro gateway
    rw [trail]
    simp
  have opened : ∀ gateway, .opened gateway ∈ state.trail ↔
      .opened gateway ∈ ledger.trail ∨ gateway = ledger.next := by
    intro gateway
    rw [trail]
    simp
  -- a live gateway is an earlier one with its own number, or the new one
  have cases : ∀ gateway, state.Live gateway →
      (ledger.Live gateway ∧ state.portSet gateway = ledger.portSet gateway) ∨
        (gateway = ledger.next ∧ state.portSet gateway = set) := by
    rintro gateway ⟨made, unended⟩
    rw [terminated] at unended
    rcases (opened gateway).mp made with earlier | rfl
    · exact .inl ⟨⟨earlier, unended⟩, by rw [← after]; exact tended.built set earlier⟩
    · exact .inr ⟨rfl, by rw [← after]; exact Function.update_self _ _ _⟩
  refine ⟨?_, ?_, ?_, ?_, ?_, ?_, ?_, ?_, ?_⟩
  · intro gateway member
    obtain ⟨empty, foreign, made⟩ := tended.ended gateway ((terminated gateway).mp member)
    refine ⟨?_, ?_, (opened gateway).mpr (.inl made)⟩
    · rw [← after]
      exact built_empty empty
    · rw [← after]
      exact foreign
  · intro gateway filled
    rw [← after] at filled
    rw [opened]
    rcases tended.held gateway (built_filled filled) with native | made
    · exact .inl (by rw [← after]; exact native)
    · exact .inr (.inl made)
  · intro gateway member
    have next : state.next = ledger.next + 1 := by rw [← after]
    rw [next]
    rcases (opened gateway).mp member with earlier | rfl
    · exact (tended.made gateway earlier).trans (Nat.lt_succ_self _)
    · exact Nat.lt_succ_self _
  · intro gateway live
    have sets : state.sets = ledger.sets.erase set := by rw [← after]
    rw [sets, trail]
    rcases cases gateway live with ⟨earlier, same⟩ | ⟨rfl, same⟩
    · rw [same]
      obtain ⟨out, absent⟩ := tended.out gateway earlier
      exact ⟨out.append (by simp), fun member => absent (Finset.mem_of_mem_erase member)⟩
    · rw [same]
      refine ⟨⟨ledger.trail, _, [.opened ledger.next], rfl, rfl, by simp⟩, ?_⟩
      exact Finset.notMem_erase set ledger.sets
  · intro one other live live' equal
    rcases cases one live with ⟨earlier, same⟩ | ⟨rfl, same⟩
    · rcases cases other live' with ⟨earlier', same'⟩ | ⟨rfl, same'⟩
      · exact tended.apart one other earlier earlier' (by rw [← same, ← same', equal])
      · exact absurd (by rw [← same, equal, same']) (tended.portSet_ne earlier free)
    · rcases cases other live' with ⟨earlier', same'⟩ | ⟨rfl, same'⟩
      · exact absurd (by rw [← same', ← equal, same]) (tended.portSet_ne earlier' free)
      · rfl
  all_goals rw [trail, ← List.singleton_append, ← List.append_assoc, History.always_concat,
    History.always_concat]
  · refine ⟨⟨tended.opens, fun _ => nofun⟩, ?_⟩
    rintro gateway ⟨⟩ member
    exact tended.next_unended (by simpa using member)
  · have native : state.native = ledger.native := by rw [← after]
    rw [native]
    exact ⟨⟨tended.detaches, fun _ _ _ => nofun⟩, fun _ _ _ => nofun⟩
  · exact ⟨⟨tended.attaches, fun _ _ _ => nofun⟩, fun _ _ _ => nofun⟩
  · exact ⟨⟨tended.returns, fun _ => nofun⟩, fun _ => nofun⟩

/-- A gateway that fails to start leaves its number where it was. -/
theorem failed (tended : ledger.Tended) {set : SetNumber} (free : set ∈ ledger.sets) :
    ({ ledger with
      next := ledger.next + 1
      targets := Function.update ledger.targets ledger.next .empty
      portSet := Function.update ledger.portSet ledger.next set
      trail := ledger.trail ++ [.taken set, .returned set] } : Ledger).Tended := by
  refine tended.kept rfl rfl (Nat.le_succ _) rfl ?_ ?_ ?_ ?_ ?_ ?_ ?_ ?_
  · exact fun gateway earlier => tended.built set earlier
  · exact fun gateway ended => built_empty (tended.ended gateway ended).1
  · exact fun gateway filled => tended.held gateway (built_filled filled)
  · simp
  · intro other member
    have same : other = set := by simpa using member
    exact same ▸ free
  all_goals rw [History.always_cons, History.always_cons]
  · exact ⟨fun _ _ _ => nofun, fun _ _ _ => nofun, History.always_nil⟩
  · exact ⟨fun _ _ _ => nofun, fun _ _ _ => nofun, History.always_nil⟩
  · refine ⟨fun _ => nofun, ?_, History.always_nil⟩
    rintro _ ⟨⟩
    exact History.since_concat.mpr (.inl rfl)

/-- Whatever gateway is offered, unless it is one that a device has without
being its target, has not ended. -/
theorem offered_unended (tended : ledger.Tended) {gateway : GatewayId} {stray : Bool}
    (offered : ledger.Offers gateway stray) (straight : stray = false) :
    .terminated gateway ∉ ledger.trail ∧
      (ledger.native = some gateway ∨ .opened gateway ∈ ledger.trail) := by
  rcases offered with native | ⟨before, last⟩ | filled
  · exact ⟨fun ended => (tended.ended gateway ended).2.1 native, .inl native⟩
  · refine ⟨fun ended => ?_, .inr (last ▸ List.mem_append_right _ (.head _))⟩
    have earlier : .terminated gateway ∈ before := by
      rw [last] at ended
      simpa using ended
    exact tended.opens before _ [] last gateway rfl earlier
  · exact ⟨fun ended => filled straight (tended.ended gateway ended).1,
      tended.held gateway (filled straight)⟩

theorem attached (tended : ledger.Tended) {gateway : GatewayId} {device : DeviceId} {mac : Mac}
    {stray : Bool} (offered : ledger.Offers gateway stray) (straight : stray = false) :
    ({ ledger with
      targets := Function.update ledger.targets gateway
        ((ledger.targets gateway).insert mac device)
      trail := ledger.trail ++ [.attached gateway device stray] } : Ledger).Tended := by
  obtain ⟨unended, own⟩ := tended.offered_unended offered straight
  refine tended.kept rfl rfl le_rfl rfl (fun _ _ => rfl) ?_ ?_ ?_ ?_ ?_ ?_ ?_
  · intro other ended
    have different : other ≠ gateway := by
      rintro rfl
      exact unended ended
    simp only [Function.update_of_ne different]
    exact (tended.ended other ended).1
  · intro other filled
    by_cases same : other = gateway
    · exact same ▸ own
    · simp only [Function.update_of_ne same] at filled
      exact tended.held other filled
  · simp
  · simp
  all_goals rw [History.always_cons, List.append_nil]
  · exact ⟨fun _ _ _ => nofun, History.always_nil⟩
  · refine ⟨?_, History.always_nil⟩
    rintro _ _ _ ⟨⟩
    exact unended
  · exact ⟨fun _ => nofun, History.always_nil⟩

theorem detached (tended : ledger.Tended) {gateway : GatewayId} {device : DeviceId} {mac : Mac}
    (present : (ledger.targets gateway).get? mac ≠ none) :
    ({ ledger with
      targets := Function.update ledger.targets gateway ((ledger.targets gateway).erase mac)
      trail := ledger.trail ++
        [.detached gateway device ((ledger.targets gateway).erase mac).size] } :
      Ledger).Tended := by
  have filled : (ledger.targets gateway).size ≠ 0 := fun empty =>
    present (Dict.size_eq_zero_iff.mp empty mac)
  refine tended.kept rfl rfl le_rfl rfl (fun _ _ => rfl) ?_ ?_ ?_ ?_ ?_ ?_ ?_
  · intro other ended
    have different : other ≠ gateway := by
      rintro rfl
      exact filled (tended.ended other ended).1
    simp only [Function.update_of_ne different]
    exact (tended.ended other ended).1
  · intro other left
    by_cases same : other = gateway
    · exact same ▸ tended.held gateway filled
    · simp only [Function.update_of_ne same] at left
      exact tended.held other left
  · simp
  · simp
  all_goals rw [History.always_cons, List.append_nil]
  · refine ⟨?_, History.always_nil⟩
    rintro _ _ _ ⟨⟩
    exact ⟨fun ended => filled (tended.ended gateway ended).1, tended.held gateway filled⟩
  · exact ⟨fun _ _ _ => nofun, History.always_nil⟩
  · exact ⟨fun _ => nofun, History.always_nil⟩

/-- The gateway that just lost its last device is live. -/
theorem leaving (tended : ledger.Tended) (straight : ledger.Straight) {gateway : GatewayId}
    {device : DeviceId} (left : ledger.Ends (.detached gateway device 0)) :
    ledger.Live gateway ∧ ledger.native ≠ some gateway := by
  obtain ⟨before, last⟩ := left
  have member : .detached gateway device 0 ∈ ledger.trail :=
    last ▸ List.mem_append_right _ (.head _)
  have foreign : ledger.native ≠ some gateway := fun native =>
    straight.2 gateway device native member
  obtain ⟨unended, own⟩ := tended.detaches before _ [] last gateway device 0 rfl
  refine ⟨⟨last ▸ List.mem_append_left _ (own.resolve_left foreign), fun ended => ?_⟩, foreign⟩
  rw [last] at ended
  exact unended (by simpa using ended)

/-- A live gateway without targets ends, and its number may go back. -/
theorem finished (tended : ledger.Tended) {gateway : GatewayId} (live : ledger.Live gateway)
    (foreign : ledger.native ≠ some gateway) (empty : (ledger.targets gateway).size = 0)
    {sets : Finset SetNumber} {more : List Happening}
    (only : ∀ note ∈ more, note = .returned (ledger.portSet gateway))
    (kept : ∀ set ∈ sets, set ∈ ledger.sets ∨ set = ledger.portSet gateway)
    (returns : History.Always
      (fun before => ReturnsOut (ledger.trail ++ [.terminated gateway] ++ before)) more) :
    ({ ledger with
      sets := sets
      trail := ledger.trail ++ [.terminated gateway] ++ more } : Ledger).Tended := by
  have terminated : ∀ other,
      .terminated other ∈ ledger.trail ++ [.terminated gateway] ++ more ↔
        .terminated other ∈ ledger.trail ∨ other = gateway := by
    intro other
    have silent : Happening.terminated other ∉ more := fun member => nomatch only _ member
    simp [silent]
  have opened : ∀ other, .opened other ∈ ledger.trail ++ [.terminated gateway] ++ more ↔
      .opened other ∈ ledger.trail := by
    intro other
    have silent : Happening.opened other ∉ more := fun member => nomatch only _ member
    simp [silent]
  -- the other live gateways keep their numbers, which are not this one's
  have others : ∀ other, .opened other ∈ ledger.trail ++ [.terminated gateway] ++ more →
      .terminated other ∉ ledger.trail ++ [.terminated gateway] ++ more →
      ledger.Live other ∧ ledger.portSet other ≠ ledger.portSet gateway := by
    intro other made unended
    rw [opened] at made
    rw [terminated, not_or] at unended
    exact ⟨⟨made, unended.1⟩, fun equal =>
      unended.2 (tended.apart other gateway ⟨made, unended.1⟩ live equal)⟩
  refine ⟨?_, ?_, ?_, ?_, ?_, ?_, ?_, ?_, ?_⟩
  · intro other member
    refine ⟨?_, ?_, (opened other).mpr ?_⟩
    all_goals rcases (terminated other).mp member with earlier | rfl
    · exact (tended.ended other earlier).1
    · exact empty
    · exact (tended.ended other earlier).2.1
    · exact foreign
    · exact (tended.ended other earlier).2.2
    · exact live.1
  · exact fun other filled => (tended.held other filled).imp_right (opened other).mpr
  · exact fun other member => tended.made other ((opened other).mp member)
  · rintro other ⟨made, unended⟩
    obtain ⟨alive, different⟩ := others other made unended
    obtain ⟨out, absent⟩ := tended.out other alive
    refine ⟨(out.append (by simp)).append fun note member same => ?_, fun member => ?_⟩
    · exact different (Happening.returned.inj ((only note member).symm.trans same)).symm
    · exact (kept _ member).elim absent different
  · rintro one other ⟨made, unended⟩ ⟨made', unended'⟩
    exact tended.apart one other (others one made unended).1 (others other made' unended').1
  all_goals rw [History.always_append, History.always_concat]
  · exact ⟨⟨tended.opens, fun _ => nofun⟩, fun _ note _ split _ same =>
      nomatch same ▸ only note (split ▸ List.mem_append_right _ (.head _))⟩
  · exact ⟨⟨tended.detaches, fun _ _ _ => nofun⟩, fun _ note _ split _ _ _ same =>
      nomatch same ▸ only note (split ▸ List.mem_append_right _ (.head _))⟩
  · exact ⟨⟨tended.attaches, fun _ _ _ => nofun⟩, fun _ note _ split _ _ _ same =>
      nomatch same ▸ only note (split ▸ List.mem_append_right _ (.head _))⟩
  · exact ⟨⟨tended.returns, fun _ => nofun⟩, returns⟩

theorem terminated (tended : ledger.Tended) (straight : ledger.Straight) {gateway : GatewayId}
    {device : DeviceId} (left : ledger.Ends (.detached gateway device 0))
    (empty : (ledger.targets gateway).size = 0) :
    ({ ledger with trail := ledger.trail ++ [.terminated gateway] } : Ledger).Tended := by
  obtain ⟨live, foreign⟩ := tended.leaving straight left
  have finished := @finished _ tended gateway live foreign empty ledger.sets [] (fun _ => nofun)
    (fun _ => .inl) History.always_nil
  rwa [List.append_nil] at finished

theorem retired (tended : ledger.Tended) (straight : ledger.Straight) {gateway : GatewayId}
    {device : DeviceId} (left : ledger.Ends (.detached gateway device 0))
    (empty : (ledger.targets gateway).size = 0) :
    ({ ledger with
      sets := insert (ledger.portSet gateway) ledger.sets
      trail := ledger.trail ++ [.terminated gateway, .returned (ledger.portSet gateway)] } :
      Ledger).Tended := by
  obtain ⟨live, foreign⟩ := tended.leaving straight left
  have finished := @finished _ tended gateway live foreign empty
    (insert (ledger.portSet gateway) ledger.sets) [.returned (ledger.portSet gateway)]
    (fun _ => List.mem_singleton.mp) (fun set member => (Finset.mem_insert.mp member).symm) (by
      rw [History.always_cons, List.append_nil]
      refine ⟨?_, History.always_nil⟩
      rintro _ ⟨⟩
      exact (tended.out gateway live).1.append (by simp))
  rwa [List.append_assoc] at finished

theorem step {config : Config} {reaps : Mac → Prop} {before after : Ledger}
    (step : Step config reaps before after) (straight : after.Straight)
    (tended : before.Tended) : after.Tended := by
  have earlier := straight.of_step step
  cases step with
  | openUp set free => exact tended.opened free
  | giveBack set free => exact tended.failed free
  | attach gateway device mac stray offered =>
      refine tended.attached offered ?_
      cases stray with
      | false => rfl
      | true => exact absurd (List.mem_append_right _ (.head _)) (straight.1 gateway device)
  | detach gateway device mac present => exact tended.detached present
  | terminate gateway device left empty => exact tended.terminated earlier left empty
  | retire gateway device left empty => exact tended.retired earlier left empty
  | suppress | converse | leave =>
      exact tended.aside (List.append_nil _).symm rfl rfl rfl rfl rfl fun _ => nofun
  | finalize | trigger | enqueue | consider | cancel | create | reap =>
      exact tended.aside rfl rfl rfl rfl rfl rfl (by simp)
  | flap info time note _ cause =>
      rcases cause with rfl | rfl <;> exact tended.aside rfl rfl rfl rfl rfl rfl (by simp)
  | settle info value notes _ cause =>
      rcases cause with rfl | rfl | rfl <;> exact tended.aside rfl rfl rfl rfl rfl rfl (by simp)

end Tended

end Ledger

/-- For every run, with or without a native gateway, in which a device is only
attached when every registered member of its group that has the gateway is a
target of it, and in which the native gateway keeps its last device: no device
is attached to a gateway that was terminated, and a set number that is returned
was taken and has not been returned since. -/
theorem gateways_live {env : Env} {world : World} (reached : Started env world)
    (straight : ∀ gateway device, Happening.attached gateway device true ∉ world.trail)
    (kept : ∀ gateway device, world.nativeGateway = some gateway →
      Happening.detached gateway device 0 ∉ world.trail) :
    (∀ before gateway device stray after,
      world.trail = before ++ .attached gateway device stray :: after →
      .terminated gateway ∉ before) ∧
    ∀ before set after, world.trail = before ++ .returned set :: after →
      ∃ first since, before = first ++ .taken set :: since ∧ .returned set ∉ since := by
  have tended : world.ledger.Straight → world.ledger.Tended :=
    started_ledger (fun ledger => ledger.Straight → ledger.Tended)
      (fun native _ => .initial native)
      (fun _ _ step earlier straight => .step step straight (earlier (straight.of_step step)))
      reached
  have tended := tended ⟨straight, kept⟩
  refine ⟨fun before gateway device stray after split => ?_, fun before set after split => ?_⟩
  · exact tended.attaches before _ after split gateway device stray rfl
  · obtain ⟨first, _, since, same, rfl, unreturned⟩ :=
      tended.returns before _ after split set rfl
    exact ⟨first, since, same, fun member => unreturned _ member rfl⟩

namespace Retirement

/-- A device fails because its port goes down, and is learned once more. -/
def twiceLearned : World :=
  ([.receive (.event (.portState 1 1 true)), .receive (.event (.portState 2 1 true)),
    .receive (.event (.portLearn 2 1 "9a:02:57:1e:8f:01" 10)), .faucet,
    .receive (.event (.portState 2 1 false)), .faucet, .reap,
    .receive (.event (.portState 2 1 true)),
    .receive (.event (.portLearn 2 1 "9a:02:57:1e:8f:01" 10)), .faucet] : List Command).foldl
      (fun state command => command.step (.quiet { secPort := 7 }) state)
      (startWorld (.quiet { secPort := 7 }))

/-- A device is attached beside a member that has the gateway but is no target. -/
def leavesStray : Happening → Bool
  | .attached _ _ stray => stray
  | _ => false

theorem twiceLearned_gateways_live :
    Happening.terminated 1 ∉ twiceLearned.trail.take 19 ∧
      ∃ first since, twiceLearned.trail.take 12 = first ++ .taken ⟨1, by decide⟩ :: since ∧
        Happening.returned ⟨1, by decide⟩ ∉ since := by
  have attached : twiceLearned.trail = twiceLearned.trail.take 19 ++
      .attached 1 1 false :: twiceLearned.trail.drop 20 := by decide +kernel
  have returned : twiceLearned.trail = twiceLearned.trail.take 12 ++
      .returned ⟨1, by decide⟩ :: twiceLearned.trail.drop 13 := by decide +kernel
  have straight : ∀ happening ∈ twiceLearned.trail, leavesStray happening = false := by
    decide +kernel
  have reached : Started (.quiet { secPort := 7 }) twiceLearned :=
    Reaches.foldl (fun _ _ => trivial) _
  have unshared : twiceLearned.nativeGateway = none := by decide +kernel
  have live := gateways_live reached (fun gateway device member => by cases straight _ member)
    (fun gateway device native => by cases unshared.symm.trans native)
  exact ⟨live.1 _ 1 1 false _ attached, live.2 _ _ _ returned⟩

def nativeConfig : Config := { secPort := 7, vlanTrigger := true, nativeVlan := some 122 }

/-- The only device of the native gateway is terminated, and another one is
learned. -/
def nativeReused : World :=
  ([.receive (.event (.portState 1 1 true)),
    .receive (.event (.portLearn 1 1 "9a:02:57:1e:8f:01" 10)), .faucet, .gatewayException 0,
    .receive (.event (.portLearn 1 1 "9a:02:57:1e:8f:02" 11)), .faucet] : List Command).foldl
      (fun state command => command.step (.quiet nativeConfig) state)
      (startWorld (.quiet nativeConfig))

theorem terminated_gateway_attached :
    ¬ ∀ (env : Env) (world : World), Started env world →
      (∀ before gateway device stray after,
        world.trail = before ++ .attached gateway device stray :: after →
        .terminated gateway ∉ before) ∧
      ∀ before set after, world.trail = before ++ .returned set :: after →
        ∃ first since, before = first ++ .taken set :: since ∧ .returned set ∉ since := by
  intro always
  have reached : Started (.quiet nativeConfig) nativeReused :=
    Reaches.foldl (fun _ _ => trivial) _
  have attached : nativeReused.trail = nativeReused.trail.take 11 ++
      .attached 0 1 false :: nativeReused.trail.drop 12 := by decide +kernel
  refine (always _ _ reached).1 _ 0 1 false _ attached ?_
  decide +kernel

end Retirement

end Daq
