import Daq.Faucet.Steps
import Daq.Lib.JsonRoundTrip
import Daq.Lib.Reach

namespace Daq.Faucet

/-! Debouncing delays the events of a port and drops those that were overtaken,
but it keeps the last one. -/

theorem stateKey_injective {first second port other : Int}
    (same : stateKey (.int first) port = stateKey (.int second) other) :
    first = second ∧ port = other := by
  have dash : ∀ rest, Json.Stops ('-' :: rest) := by
    intro rest char starts
    cases starts
    decide
  have read := Json.readNumber_int first (dash (Json.writeInt port))
  have again := Json.readNumber_int second (dash (Json.writeInt other))
  have joined : Json.writeInt first ++ '-' :: Json.writeInt port =
      Json.writeInt second ++ '-' :: Json.writeInt other := same
  rw [joined, again] at read
  simp only [Option.some.injEq, Prod.mk.injEq, Json.int.injEq, List.cons.injEq, true_and] at read
  refine ⟨read.1.symm, ?_⟩
  have ends : Json.Stops [] := fun _ none => by cases none
  have end_ := Json.readNumber_int port ends
  have last := Json.readNumber_int other ends
  rw [← read.2, last] at end_
  simpa using end_.symm

/-! The last event that was heard of a port. -/

def LastHeard (heard : List PortState) (index : Nat) (state : PortState) : Prop :=
  heard[index]? = some state ∧
    ∀ later other, index < later → heard[later]? = some other → other.key ≠ state.key

theorem lastHeard_append {heard : List PortState} {index : Nat} {state : PortState}
    (last : LastHeard heard index state) {other : PortState} (apart : other.key ≠ state.key) :
    LastHeard (heard ++ [other]) index state := by
  have inside := (List.getElem?_eq_some_iff.mp last.1).1
  refine ⟨by rw [List.getElem?_append_left inside]; exact last.1, ?_⟩
  intro later found after place
  rcases Nat.lt_or_ge later heard.length with earlier | beyond
  · rw [List.getElem?_append_left earlier] at place
    exact last.2 later found after place
  · rw [List.getElem?_append_right beyond, List.getElem?_singleton] at place
    split at place
    · cases place
      exact apart
    · cases place

theorem lastHeard_new (heard : List PortState) (state : PortState) :
    LastHeard (heard ++ [state]) heard.length state := by
  refine ⟨by simp, fun later other after place => ?_⟩
  have inside := (List.getElem?_eq_some_iff.mp place).1
  rw [List.length_append, List.length_singleton] at inside
  omega

theorem lastHeard_of_append {heard : List PortState} {index : Nat} {state other : PortState}
    (last : LastHeard (heard ++ [other]) index state) :
    index = heard.length ∧ state = other ∨ other.key ≠ state.key ∧ LastHeard heard index state := by
  rcases Nat.lt_or_ge index heard.length with earlier | beyond
  · right
    refine ⟨last.2 heard.length other earlier (by simp), ?_, ?_⟩
    · rw [← List.getElem?_append_left earlier]
      exact last.1
    · intro later found after place
      have inside := (List.getElem?_eq_some_iff.mp place).1
      exact last.2 later found after (by rw [List.getElem?_append_left inside]; exact place)
  · left
    have place := last.1
    rw [List.getElem?_append_right beyond, List.getElem?_singleton] at place
    split at place
    · rename_i first
      cases place
      exact ⟨by omega, rfl⟩
    · cases place

theorem lastHeard_unique {heard : List PortState} {first second : Nat}
    {state other : PortState} (last : LastHeard heard first state)
    (again : LastHeard heard second other) (same : state.key = other.key) : first = second := by
  rcases Nat.lt_trichotomy first second with less | equal | more
  · exact absurd same.symm (last.2 second other less again.1)
  · exact equal
  · exact absurd same (again.2 first state more last.1)

theorem exists_lastHeard {heard : List PortState} {state : PortState} (inside : state ∈ heard) :
    ∃ index last, LastHeard heard index last ∧ last.key = state.key := by
  induction heard using List.reverseRecOn with
  | nil => cases inside
  | append_singleton heard other shorter =>
      by_cases same : other.key = state.key
      · exact ⟨heard.length, other, lastHeard_new heard other, same⟩
      · rcases List.mem_append.mp inside with earlier | new
        · obtain ⟨index, last, found, key⟩ := shorter earlier
          exact ⟨index, last, lastHeard_append found (key ▸ same), key⟩
        · rw [List.mem_singleton.mp new] at same
          exact absurd rfl same

/-! Timers. -/

/-- A timer waits for the last event of its port; what was handled was not
overtaken by then, and the last event of a port either waits or was handled. -/
structure Timing (client : Client) : Prop where
  started : ∀ key timer, client.portTimers.get? key = some timer → timer < client.nextTimer
  own : ∀ first second timer, client.portTimers.get? first = some timer →
    client.portTimers.get? second = some timer → first = second
  armed : ∀ entry ∈ client.pending,
    client.portTimers.get? entry.state.key = some entry.timer
  latest : ∀ entry ∈ client.pending, LastHeard client.heard entry.index entry.state
  sound : ∀ entry ∈ client.handled, client.heard[entry.index]? = some entry.state ∧
    entry.index < entry.heard ∧ entry.heard ≤ client.heard.length ∧
    ∀ later other, entry.index < later → later < entry.heard →
      client.heard[later]? = some other → other.key ≠ entry.state.key
  ordered : client.handled.Pairwise fun first second =>
    first.state.key = second.state.key → first.index < second.index
  before : ∀ entry ∈ client.handled, ∀ waiting ∈ client.pending,
    entry.state.key = waiting.state.key → entry.index < waiting.index
  kept : ∀ index state, LastHeard client.heard index state →
    (∃ entry ∈ client.pending, entry.index = index) ∨ ∃ entry ∈ client.handled, entry.index = index

theorem timing_connected (portDebounceSec : Int) : Timing (.connected portDebounceSec) where
  started := fun _ _ wrong => by cases wrong
  own := fun _ _ _ wrong => by cases wrong
  armed := fun _ wrong => by cases wrong
  latest := fun _ wrong => by cases wrong
  sound := fun _ wrong => by cases wrong
  ordered := .nil
  before := fun _ wrong => by cases wrong
  kept := fun _ _ wrong => by cases wrong.1

namespace Timing

variable {client : Client}

theorem mem_uncancelled (timing : Timing client) {key : Key} {entry : Pending} :
    entry ∈ client.uncancelled key ↔ entry ∈ client.pending ∧ entry.state.key ≠ key := by
  unfold Client.uncancelled
  cases found : client.portTimers.get? key with
  | none =>
      refine ⟨fun inside => ⟨inside, fun same => ?_⟩, fun both => both.1⟩
      have running := timing.armed entry inside
      rw [same, found] at running
      cases running
  | some timer =>
      rw [List.mem_filter, decide_eq_true_iff]
      refine and_congr_right fun inside => not_congr ⟨fun same => ?_, fun same => ?_⟩
      · exact timing.own _ _ timer (same ▸ timing.armed entry inside) found
      · have running := timing.armed entry inside
        rw [same, found] at running
        exact (Option.some.inj running).symm

theorem sound_append (timing : Timing client) (state : PortState) {entry : Handled}
    (inside : entry ∈ client.handled) :
    (client.heard ++ [state])[entry.index]? = some entry.state ∧
      entry.index < entry.heard ∧ entry.heard ≤ (client.heard ++ [state]).length ∧
      ∀ later other, entry.index < later → later < entry.heard →
        (client.heard ++ [state])[later]? = some other → other.key ≠ entry.state.key := by
  obtain ⟨place, first, bound, apart⟩ := timing.sound entry inside
  refine ⟨?_, first, Nat.le_trans bound (by simp), fun later other after within found => ?_⟩
  · rw [List.getElem?_append_left (Nat.lt_of_lt_of_le first bound)]
    exact place
  · rw [List.getElem?_append_left (Nat.lt_of_lt_of_le within bound)] at found
    exact apart later other after within found

theorem index_lt (timing : Timing client) {entry : Handled} (inside : entry ∈ client.handled) :
    entry.index < client.heard.length := by
  obtain ⟨_, first, bound, _⟩ := timing.sound entry inside
  exact Nat.lt_of_lt_of_le first bound

theorem latest_uncancelled (timing : Timing client) {state : PortState} {entry : Pending}
    (inside : entry ∈ client.uncancelled state.key) :
    LastHeard (client.heard ++ [state]) entry.index entry.state := by
  obtain ⟨pending, apart⟩ := timing.mem_uncancelled.mp inside
  exact lastHeard_append (timing.latest entry pending) (Ne.symm apart)

/-- The last event of another port still waits, or was handled. -/
theorem kept_uncancelled (timing : Timing client) {state found : PortState} {index : Nat}
    (last : LastHeard client.heard index found) (apart : state.key ≠ found.key) :
    (∃ entry ∈ client.uncancelled state.key, entry.index = index) ∨
      ∃ entry ∈ client.handled, entry.index = index := by
  rcases timing.kept index found last with ⟨entry, pending, same⟩ | handled
  · refine .inl ⟨entry, timing.mem_uncancelled.mpr ⟨pending, ?_⟩, same⟩
    have place := (timing.latest entry pending).1
    rw [same, last.1] at place
    rw [← Option.some.inj place]
    exact Ne.symm apart
  · exact .inr handled

/-- An event that is handed on at once cancels the timer of its port. -/
theorem up (timing : Timing client) (state : PortState) :
    Timing { client with
      heard := client.heard ++ [state]
      pending := client.uncancelled state.key
      debouncedQ := client.debouncedQ ++ [state.event]
      handled := client.handled ++ [⟨state, client.heard.length, client.heard.length + 1⟩] } := by
  refine { timing with
    armed := fun entry inside => timing.armed entry (timing.mem_uncancelled.mp inside).1
    latest := fun entry inside => timing.latest_uncancelled inside
    sound := ?_
    ordered := ?_
    before := ?_
    kept := ?_ }
  · intro entry inside
    rcases List.mem_append.mp inside with old | new
    · exact timing.sound_append state old
    · cases List.mem_singleton.mp new
      refine ⟨by simp, by simp, by simp, fun later other after within => ?_⟩
      dsimp only at after within
      omega
  · rw [List.pairwise_append]
    refine ⟨timing.ordered, List.pairwise_singleton .., ?_⟩
    intro entry inside new same _
    cases List.mem_singleton.mp same
    exact timing.index_lt inside
  · intro entry inside waiting pending same
    obtain ⟨running, apart⟩ := timing.mem_uncancelled.mp pending
    rcases List.mem_append.mp inside with old | new
    · exact timing.before entry old waiting running same
    · cases List.mem_singleton.mp new
      exact absurd same.symm apart
  · intro index found last
    rcases lastHeard_of_append last with ⟨new, _⟩ | ⟨apart, old⟩
    · exact .inr ⟨_, List.mem_append_right _ (List.mem_singleton_self _), new.symm⟩
    · rcases timing.kept_uncancelled old apart with waiting | ⟨entry, handled, same⟩
      · exact .inl waiting
      · exact .inr ⟨entry, List.mem_append_left _ handled, same⟩

/-- No other port has the timer that is started next. -/
theorem own_insert (timing : Timing client) {key first second : Key} {timer : Nat}
    (found : (client.portTimers.insert key client.nextTimer).get? first = some timer)
    (again : (client.portTimers.insert key client.nextTimer).get? second = some timer) :
    first = second := by
  rw [Dict.get?_insert] at found again
  split at found
  · rename_i same
    split at again
    · rename_i other
      exact same.trans other.symm
    · cases found
      exact absurd (timing.started second _ again) (Nat.lt_irrefl _)
  · split at again
    · cases again
      exact absurd (timing.started first _ found) (Nat.lt_irrefl _)
    · exact timing.own first second timer found again

/-- An event that is put off gets the timer of its port. -/
theorem down (timing : Timing client) (state : PortState) :
    Timing { client with
      heard := client.heard ++ [state]
      pending := client.uncancelled state.key ++ [⟨client.nextTimer, state, client.heard.length⟩]
      portTimers := client.portTimers.insert state.key client.nextTimer
      nextTimer := client.nextTimer + 1 } := by
  refine {
    started := ?_
    own := fun first second timer found again => timing.own_insert found again
    armed := ?_
    latest := ?_
    sound := fun entry inside => timing.sound_append state inside
    ordered := timing.ordered
    before := ?_
    kept := ?_ }
  · intro key timer found
    dsimp only at found ⊢
    rw [Dict.get?_insert] at found
    split at found
    · cases found
      exact Nat.lt_succ_self _
    · exact Nat.lt_succ_of_lt (timing.started key timer found)
  · intro entry inside
    dsimp only at inside ⊢
    rcases List.mem_append.mp inside with old | new
    · obtain ⟨running, apart⟩ := timing.mem_uncancelled.mp old
      rw [Dict.get?_insert_of_ne _ _ apart]
      exact timing.armed entry running
    · cases List.mem_singleton.mp new
      exact Dict.get?_insert_self ..
  · intro entry inside
    rcases List.mem_append.mp inside with old | new
    · exact timing.latest_uncancelled old
    · cases List.mem_singleton.mp new
      exact lastHeard_new client.heard state
  · intro entry inside waiting pending same
    rcases List.mem_append.mp pending with old | new
    · exact timing.before entry inside waiting (timing.mem_uncancelled.mp old).1 same
    · cases List.mem_singleton.mp new
      exact timing.index_lt inside
  · intro index found last
    rcases lastHeard_of_append last with ⟨new, _⟩ | ⟨apart, old⟩
    · exact .inl ⟨_, List.mem_append_right _ (List.mem_singleton_self _), new.symm⟩
    · rcases timing.kept_uncancelled old apart with ⟨entry, waiting, same⟩ | handled
      · exact .inl ⟨entry, List.mem_append_left _ waiting, same⟩
      · exact .inr handled

/-- An event that comes in cancels the timer of its port and is the last one. -/
theorem debounced (timing : Timing client) {state : PortState} {after : Client}
    (positive : client.portDebounceSec ≠ 0) (debounced : Debounced client state after) :
    Timing after := by
  cases debounced with
  | immediate none => exact absurd none positive
  | up => exact timing.up state
  | down => exact timing.down state

/-- A timer that fires hands on the last event of its port. -/
theorem expired (timing : Timing client) {timer : Nat} {entry : Pending}
    (found : client.pending.find? (fun entry => entry.timer = timer) = some entry) :
    Timing { client with
      pending := client.pending.filter fun other => other.timer ≠ timer
      debouncedQ := client.debouncedQ ++ [entry.state.event]
      handled := client.handled ++ [⟨entry.state, entry.index, client.heard.length⟩] } := by
  have inside := List.mem_of_find?_eq_some found
  have same : entry.timer = timer := by
    simpa using List.find?_some found
  have last := timing.latest entry inside
  have within := (List.getElem?_eq_some_iff.mp last.1).1
  refine { timing with
    armed := fun other pending => timing.armed other (List.mem_of_mem_filter pending)
    latest := fun other pending => timing.latest other (List.mem_of_mem_filter pending)
    sound := ?_
    ordered := ?_
    before := ?_
    kept := ?_ }
  · intro other handled
    rcases List.mem_append.mp handled with old | new
    · exact timing.sound other old
    · cases List.mem_singleton.mp new
      exact ⟨last.1, within, Nat.le_refl _, fun later state after _ place =>
        last.2 later state after place⟩
  · rw [List.pairwise_append]
    refine ⟨timing.ordered, List.pairwise_singleton .., ?_⟩
    intro other handled new equal key
    cases List.mem_singleton.mp equal
    exact timing.before other handled entry inside key
  · intro other handled waiting pending key
    obtain ⟨running, apart⟩ := List.mem_filter.mp pending
    rcases List.mem_append.mp handled with old | new
    · exact timing.before other old waiting running key
    · cases List.mem_singleton.mp new
      -- Two timers of one port are the same.
      have first := timing.armed entry inside
      have second := timing.armed waiting running
      rw [show entry.state.key = waiting.state.key from key, second] at first
      exact absurd ((Option.some.inj first).trans same) (of_decide_eq_true apart)
  · intro index state latest
    rcases timing.kept index state latest with ⟨waiting, pending, place⟩ | ⟨other, handled, place⟩
    · by_cases fires : waiting.timer = timer
      · right
        refine ⟨_, List.mem_append_right _ (List.mem_singleton_self _), ?_⟩
        have first := timing.armed entry inside
        have second := timing.armed waiting pending
        rw [same] at first
        rw [fires] at second
        rw [← place]
        exact lastHeard_unique last (timing.latest waiting pending)
          (timing.own _ _ timer first second)
      · exact .inl ⟨waiting, List.mem_filter.mpr ⟨pending, decide_eq_true fires⟩, place⟩
    · exact .inr ⟨other, List.mem_append_left _ handled, place⟩

end Timing

theorem timing_step {reader after : Reader} {move : Move} (shift : Shift reader move after)
    (positive : reader.client.portDebounceSec ≠ 0) (timing : Timing reader.client) :
    Timing after.client := by
  cases shift with
  | waited data placed same =>
      rw [same]
      exact { timing with }
  | served event rest placed queue same =>
      rw [same]
      exact { timing with }
  | passed placed carried same =>
      rw [same]
      exact { timing with }
  | debounced event state client placed came raw read debounced same =>
      rw [same]
      have buffered : Timing { reader.client with buffer := reader.client.remaining } :=
        { timing with }
      exact buffered.debounced positive debounced
  | stale event state active placed came processed read found repeated same =>
      rw [same]
      exact { timing with }
  | marked event state placed came processed read fresh same =>
      rw [same]
      exact { timing with }
  | idle => exact timing
  | expired entry found same =>
      rw [same]
      exact timing.expired found

theorem portDebounceSec_step {reader after : Reader} {move : Move}
    (shift : Shift reader move after) :
    after.client.portDebounceSec = reader.client.portDebounceSec := by
  cases shift with
  | waited data placed same => rw [same]
  | served event rest placed queue same => rw [same]
  | passed placed carried same => rw [same]
  | debounced event state client placed came raw read debounced same =>
      rw [same]
      cases debounced with
      | immediate => rfl
      | up => rfl
      | down => rfl
  | stale event state active placed came processed read found repeated same => rw [same]
  | marked event state placed came processed read fresh same => rw [same]
  | idle => rfl
  | expired entry found same => rw [same]

theorem timing_reached {portDebounceSec : Int} (positive : portDebounceSec ≠ 0)
    {reader : Reader}
    (reached : Reaches Move.step (fun _ _ => True) (.connected portDebounceSec) reader) :
    reader.client.portDebounceSec ≠ 0 ∧ Timing reader.client := by
  induction reached with
  | start => exact ⟨positive, timing_connected portDebounceSec⟩
  | @step state move _ _ before =>
      have shift := step_shift state move
      refine ⟨?_, timing_step shift before.1 before.2⟩
      rw [portDebounceSec_step shift]
      exact before.1

/-! The queue hands on what comes out of debouncing. -/

def PortState.Readable (state : PortState) : Prop := state.Known ∧ state.Plain

/-- What was reported of a port came out of the queue, unless it came in as
debounced already. -/
structure Passing (reader : Reader) : Prop where
  waiting : ∀ entry ∈ reader.client.pending, entry.state.Readable
  readable : ∀ entry ∈ reader.client.handled, entry.state.Readable
  queued : ∃ served queued : List PortState,
    reader.client.handled.map Handled.state = served ++ queued ∧
    reader.client.debouncedQ = queued.map PortState.event ∧
    ∀ which : PortState → Bool,
      (reader.client.marked.filter which = [] →
        reader.reported.filter which = served.filter which) ∧
      ((reader.client.handled.map Handled.state).filter which = [] →
        reader.reported.filter which = reader.client.marked.filter which)

theorem passing_connected (portDebounceSec : Int) : Passing (.connected portDebounceSec) where
  waiting := fun _ wrong => by cases wrong
  readable := fun _ wrong => by cases wrong
  queued := ⟨[], [], rfl, rfl, fun _ => ⟨fun _ => rfl, fun _ => rfl⟩⟩

theorem mem_uncancelled_pending {client : Client} {key : Key} {entry : Pending}
    (inside : entry ∈ client.uncancelled key) : entry ∈ client.pending := by
  unfold Client.uncancelled at inside
  split at inside
  · exact inside
  · exact List.mem_of_mem_filter inside

theorem Passing.handle {reader after : Reader} (passing : Passing reader) (entry : Handled)
    (readable : entry.state.Readable)
    (waiting : ∀ entry ∈ after.client.pending, entry.state.Readable)
    (queue : after.client.debouncedQ = reader.client.debouncedQ ++ [entry.state.event])
    (handled : after.client.handled = reader.client.handled ++ [entry])
    (marked : after.client.marked = reader.client.marked)
    (reported : after.reported = reader.reported) : Passing after := by
  obtain ⟨served, queued, all, waits, from_⟩ := passing.queued
  refine ⟨waiting, ?_, served, queued ++ [entry.state], ?_, ?_, ?_⟩
  · intro other inside
    rw [handled] at inside
    rcases List.mem_append.mp inside with old | new
    · exact passing.readable other old
    · rw [List.mem_singleton.mp new]
      exact readable
  · rw [handled, List.map_append, all, List.append_assoc]
    rfl
  · rw [queue, waits, List.map_append]
    rfl
  · intro which
    rw [marked, reported, handled, List.map_append, List.filter_append]
    exact ⟨(from_ which).1, fun none => (from_ which).2 (List.append_eq_nil_iff.mp none).1⟩

theorem Passing.same {reader after : Reader} (passing : Passing reader)
    (pending : ∀ entry ∈ after.client.pending, entry.state.Readable)
    (queue : after.client.debouncedQ = reader.client.debouncedQ)
    (handled : after.client.handled = reader.client.handled)
    (marked : after.client.marked = reader.client.marked)
    (reported : after.reported = reader.reported) : Passing after := by
  refine ⟨pending, by rw [handled]; exact passing.readable, ?_⟩
  rw [queue, handled, marked, reported]
  exact passing.queued

theorem Passing.serve {reader after : Reader} (passing : Passing reader) {event : Json}
    {rest : List Json} (queue : reader.client.debouncedQ = event :: rest)
    (same : after.client = { reader.client with debouncedQ := rest })
    (returned : after.returned = reader.returned ++ [event]) : Passing after := by
  obtain ⟨served, queued, all, waits, from_⟩ := passing.queued
  rw [queue] at waits
  cases queued with
  | nil => cases waits
  | cons state queued =>
      obtain ⟨rfl, rfl⟩ := List.cons.inj waits
      have inside : state ∈ reader.client.handled.map Handled.state := by
        rw [all]
        simp
      obtain ⟨entry, handled, rfl⟩ := List.mem_map.mp inside
      obtain ⟨known, plain⟩ := passing.readable entry handled
      have reported : after.reported = reader.reported ++ [entry.state] := by
        unfold Reader.reported
        rw [returned, List.filterMap_append, List.filterMap_cons, portState_event known plain]
        rfl
      refine ⟨by rw [same]; exact passing.waiting, by rw [same]; exact passing.readable,
        served ++ [entry.state], queued, ?_, by rw [same], ?_⟩
      · rw [same, List.append_assoc]
        exact all
      · intro which
        rw [same, reported, List.filter_append, List.filter_append]
        refine ⟨fun none => by rw [(from_ which).1 none], fun none => ?_⟩
        rw [(from_ which).2 none]
        have dropped := List.filter_eq_nil_iff.mp none entry.state inside
        rw [List.filter_cons_of_neg dropped]
        exact List.append_nil _

theorem Passing.mark {reader after : Reader} (passing : Passing reader) {state : PortState}
    (pending : after.client.pending = reader.client.pending)
    (queue : after.client.debouncedQ = reader.client.debouncedQ)
    (handled : after.client.handled = reader.client.handled)
    (marked : after.client.marked = reader.client.marked ++ [state])
    (reported : after.reported = reader.reported ++ [state]) : Passing after := by
  obtain ⟨served, queued, all, waits, from_⟩ := passing.queued
  refine ⟨by rw [pending]; exact passing.waiting, by rw [handled]; exact passing.readable,
    served, queued, by rw [handled]; exact all, by rw [queue]; exact waits, ?_⟩
  intro which
  rw [marked, reported, handled, List.filter_append, List.filter_append]
  refine ⟨fun none => ?_, fun none => by rw [(from_ which).2 none]⟩
  obtain ⟨old, new⟩ := List.append_eq_nil_iff.mp none
  rw [new, List.append_nil]
  exact (from_ which).1 old

theorem passing_step {reader after : Reader} {move : Move} (shift : Shift reader move after)
    (passing : Passing reader) : Passing after := by
  cases shift with
  | waited data placed same reported =>
      exact passing.same (by rw [same]; exact passing.waiting) (by rw [same]) (by rw [same])
        (by rw [same]) reported
  | served event rest placed queue same returned => exact passing.serve queue same returned
  | passed placed carried same reported =>
      exact passing.same (by rw [same]; exact passing.waiting) (by rw [same]) (by rw [same])
        (by rw [same]) reported
  | debounced event state client placed came raw read debounced same reported =>
      have readable : state.Readable := portState_some read
      have uncancelled : ∀ entry ∈ Client.uncancelled
          { reader.client with buffer := reader.client.remaining } state.key,
          entry.state.Readable :=
        fun entry inside => passing.waiting entry (mem_uncancelled_pending inside)
      cases debounced with
      | immediate =>
          exact passing.handle ⟨state, _, _⟩ readable
            (by rw [same]; exact passing.waiting) (by rw [same]) (by rw [same]) (by rw [same])
            reported
      | up =>
          exact passing.handle ⟨state, _, _⟩ readable
            (by rw [same]; exact uncancelled) (by rw [same]) (by rw [same]) (by rw [same]) reported
      | down =>
          refine passing.same ?_ (by rw [same]) (by rw [same]) (by rw [same]) reported
          rw [same]
          intro entry inside
          rcases List.mem_append.mp inside with old | new
          · exact uncancelled entry old
          · rw [List.mem_singleton.mp new]
            exact readable
  | stale event state active placed came processed read found repeated same reported =>
      exact passing.same (by rw [same]; exact passing.waiting) (by rw [same]) (by rw [same])
        (by rw [same]) reported
  | marked event state placed came processed read fresh same reported =>
      exact passing.mark (by rw [same]) (by rw [same]) (by rw [same]) (by rw [same]) reported
  | idle => exact passing
  | expired entry found same position reported =>
      have inside := List.mem_of_find?_eq_some found
      refine passing.handle ⟨entry.state, _, _⟩ (passing.waiting entry inside) ?_
        (by rw [same]) (by rw [same]) (by rw [same]) reported
      rw [same]
      exact fun other pending => passing.waiting other (List.mem_of_mem_filter pending)

theorem passing_reached {portDebounceSec : Int} {allowed : Reader → Move → Prop} {reader : Reader}
    (reached : Reaches Move.step allowed (.connected portDebounceSec) reader) :
    Passing reader :=
  reached.invariant Passing (passing_connected portDebounceSec)
    fun state move passing _ => passing_step (step_shift state move) passing

/-! The events of one port. -/

def PortState.on (dpid port : Int) (state : PortState) : Bool :=
  decide (state.dpid = .int dpid ∧ state.port = port)

theorem key_of_on {dpid port : Int} {state : PortState} (on : state.on dpid port = true) :
    state.key = stateKey (.int dpid) port := by
  obtain ⟨same, place⟩ := of_decide_eq_true on
  unfold PortState.key
  rw [same, place]

theorem on_of_key {dpid port : Int} {state : PortState} (numbered : ∃ id, state.dpid = .int id)
    (same : state.key = stateKey (.int dpid) port) : state.on dpid port = true := by
  obtain ⟨id, is⟩ := numbered
  unfold PortState.key at same
  rw [is] at same
  obtain ⟨rfl, place⟩ := stateKey_injective same
  exact decide_eq_true ⟨is, place⟩

theorem getLast?_heard {dpid port : Int} {heard : List PortState}
    (numbered : ∀ state ∈ heard, ∃ id, state.dpid = .int id) {index : Nat} {state : PortState}
    (last : LastHeard heard index state) (on : state.on dpid port = true) :
    (heard.filter (PortState.on dpid port)).getLast? = some state := by
  induction heard using List.reverseRecOn generalizing index state with
  | nil => cases last.1
  | append_singleton heard other shorter =>
      rw [List.filter_append]
      rcases lastHeard_of_append last with ⟨_, rfl⟩ | ⟨apart, old⟩
      · rw [List.filter_cons_of_pos on, List.filter_nil, List.getLast?_concat]
      · have off : ¬ other.on dpid port = true := by
          intro same
          exact apart ((key_of_on same).trans (key_of_on on).symm)
        rw [List.filter_cons_of_neg off, List.filter_nil, List.append_nil]
        exact shorter (fun found inside => numbered found (List.mem_append_left _ inside)) old on

/-- Among handled events in the order of their places the one with the greatest
is the last. -/
theorem getLast?_handled {handled : List Handled}
    (ordered : handled.Pairwise fun first second => first.index < second.index) {entry : Handled}
    (inside : entry ∈ handled) (greatest : ∀ other ∈ handled, other.index ≤ entry.index) :
    handled.getLast? = some entry := by
  induction handled using List.reverseRecOn with
  | nil => cases inside
  | append_singleton handled last _ =>
      rw [List.getLast?_concat]
      rcases List.mem_append.mp inside with earlier | same
      · have less := (List.pairwise_append.mp ordered).2.2 entry earlier last
          (List.mem_singleton_self _)
        exact absurd less (Nat.not_lt.mpr (greatest last (by simp)))
      · rw [List.mem_singleton.mp same]

theorem Timing.increasing {client : Client} (timing : Timing client) (dpid port : Int) :
    (client.handled.filter fun entry => entry.state.on dpid port).Pairwise
      fun first second => first.index < second.index := by
  refine (timing.ordered.filter _).imp_of_mem fun {first second} one two less => less ?_
  exact (key_of_on (List.mem_filter.mp one).2).trans (key_of_on (List.mem_filter.mp two).2).symm

theorem Timing.last_handled {client : Client} (timing : Timing client) {dpid port : Int}
    (numbered : ∀ state ∈ client.heard, ∃ id, state.dpid = .int id)
    (still : client.pending = []) :
    ((client.handled.map Handled.state).filter (PortState.on dpid port)).getLast? =
      (client.heard.filter (PortState.on dpid port)).getLast? := by
  rw [show (client.handled.map Handled.state).filter (PortState.on dpid port) =
    (client.handled.filter fun entry => entry.state.on dpid port).map Handled.state from
      List.filter_map, List.getLast?_map]
  cases empty : client.heard.filter (PortState.on dpid port) with
  | nil =>
      have none : (client.handled.filter fun entry => entry.state.on dpid port) = [] := by
        rw [List.filter_eq_nil_iff] at empty ⊢
        intro entry inside on
        exact empty entry.state (List.mem_of_getElem? (timing.sound entry inside).1) on
      rw [none]
      rfl
  | cons first rest =>
      obtain ⟨heard, on⟩ := List.mem_filter.mp
        (empty ▸ List.mem_cons_self : first ∈ client.heard.filter (PortState.on dpid port))
      obtain ⟨index, state, last, same⟩ := exists_lastHeard heard
      have here : state.on dpid port = true :=
        on_of_key (numbered state (List.mem_of_getElem? last.1)) (same.trans (key_of_on on))
      rw [← empty, getLast?_heard numbered last here]
      rcases timing.kept index state last with ⟨entry, pending, _⟩ | ⟨entry, handled, place⟩
      · rw [still] at pending
        cases pending
      · have found := (timing.sound entry handled).1
        rw [place, last.1] at found
        have its : entry.state = state := (Option.some.inj found).symm
        have greatest : ∀ other ∈ client.handled.filter fun entry => entry.state.on dpid port,
            other.index ≤ entry.index := by
          intro other inside
          obtain ⟨handled, also⟩ := List.mem_filter.mp inside
          rw [place]
          refine Nat.not_lt.mp fun later => ?_
          exact last.2 other.index other.state later (timing.sound other handled).1
            ((key_of_on also).trans (key_of_on here).symm)
        rw [getLast?_handled (timing.increasing dpid port)
          (List.mem_filter.mpr ⟨handled, by rw [its]; exact here⟩) greatest,
          Option.map_some, its]

end Daq.Faucet
