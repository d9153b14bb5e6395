import Daq.Faucet.Received
import Mathlib.Data.List.Chain

namespace Daq.Faucet

/-! Events that repeat the state of their port.  Only those that come in as
debounced are compared with the state before; the queue is not. -/

def Differs (first second : PortState) : Prop := ¬ SameActive first.active second.active

instance (first second : PortState) : Decidable (Differs first second) :=
  inferInstanceAs (Decidable (¬ _))

theorem SameActive.symm {first second : Json} (same : SameActive first second) :
    SameActive second first :=
  same.imp Eq.symm And.symm

theorem SameActive.trans {first second third : Json} (same : SameActive first second)
    (again : SameActive second third) : SameActive first third := by
  rcases same with rfl | zeros
  · exact again
  · rcases again with rfl | others
    · exact .inr zeros
    · exact .inr ⟨zeros.1, others.2⟩

/-! What happens to the ports. -/

/-- A line with the state of a port is taken, unmarked or marked as debounced, or the
timer of an unmarked line expires. -/
inductive Happening
  | line (state : PortState)
  | marked (state : PortState)
  | expiry (state : PortState)
deriving DecidableEq

namespace Happening

def state : Happening → PortState
  | .line state | .marked state | .expiry state => state

/-- The marked line of a port. -/
def markedFor (key : Key) : Happening → Option PortState
  | .marked state => if state.key = key then some state else none
  | _ => none

/-- A timer that expires tells the state of its port, and so does an unmarked line that
is up or comes while nothing is debounced, and a marked line that differs from the
marked line before it. -/
def telling (portDebounceSec : Int) (before : List Happening) : Happening → Bool
  | .expiry _ => true
  | .line state => decide (portDebounceSec = 0 ∨ truthy state.active = true)
  | .marked state =>
      decide (∀ last ∈ (before.filterMap (markedFor state.key)).getLast?, Differs last state)

/-- The line that was taken. -/
def taken : Happening → Option (Bool × PortState)
  | .line state => some (false, state)
  | .marked state => some (true, state)
  | .expiry _ => none

end Happening

/-- The states that are told, in the order of the happenings. -/
def told (portDebounceSec : Int) : List Happening → List Happening → List PortState
  | _, [] => []
  | before, happening :: rest =>
      (if happening.telling portDebounceSec before then [happening.state] else []) ++
        told portDebounceSec (before ++ [happening]) rest

/-- Of a port, no happening that tells its state has the active value of the one before
it that does. -/
def Changing (portDebounceSec dpid port : Int) (happenings : List Happening) : Prop :=
  ((told portDebounceSec [] happenings).filter (PortState.on dpid port)).IsChain Differs

instance (portDebounceSec dpid port : Int) (happenings : List Happening) :
    Decidable (Changing portDebounceSec dpid port happenings) :=
  inferInstanceAs (Decidable (List.IsChain _ _))

def happening (reader : Reader) : Move → Option Happening
  | .expire timer =>
      (reader.client.pending.find? fun entry => entry.timer = timer).map fun entry =>
        .expiry entry.state
  | .advance poll =>
      (arrivalOf reader (.advance poll)).map fun arrival =>
        if arrival.1 then .marked arrival.2 else .line arrival.2

/-- A run with what its reader has seen.  A timer that expires when the queue has been
looked at already is late for a marked line that is taken next. -/
structure Watch where
  reader : Reader
  seen : List Happening
  late : List Happening

def Watch.start (portDebounceSec : Int) : Watch := ⟨.connected portDebounceSec, [], []⟩

def Watch.step (watch : Watch) (move : Move) : Watch :=
  match move, happening watch.reader move with
  | .expire timer, expired => ⟨watch.reader.expire timer, watch.seen, watch.late ++ expired.toList⟩
  | .advance poll, some (.marked state) =>
      ⟨watch.reader.advance poll, watch.seen ++ .marked state :: watch.late, []⟩
  | .advance poll, other =>
      ⟨watch.reader.advance poll, watch.seen ++ watch.late ++ other.toList, []⟩

def watched (portDebounceSec : Int) (moves : List Move) : Watch :=
  moves.foldl Watch.step (.start portDebounceSec)

def Watch.happenings (watch : Watch) : List Happening := watch.seen ++ watch.late

theorem step_reader (watch : Watch) (move : Move) :
    (watch.step move).reader = move.step watch.reader := by
  unfold Watch.step
  split
  · rfl
  · rfl
  · rfl

/-! What is told is what is returned and what is queued. -/

theorem told_append (portDebounceSec : Int) (before first second : List Happening) :
    told portDebounceSec before (first ++ second) =
      told portDebounceSec before first ++ told portDebounceSec (before ++ first) second := by
  induction first generalizing before with
  | nil =>
      rw [List.append_nil]
      rfl
  | cons happening first shorter =>
      rw [List.cons_append, told, told, shorter, List.append_assoc, List.append_assoc]
      rfl

theorem told_expiries (portDebounceSec : Int) {late : List Happening}
    (expiries : ∀ happening ∈ late, ∃ state, happening = .expiry state)
    (before : List Happening) :
    told portDebounceSec before late = late.map Happening.state := by
  induction late generalizing before with
  | nil => rfl
  | cons happening late shorter =>
      obtain ⟨state, rfl⟩ := expiries happening List.mem_cons_self
      rw [told, shorter fun other inside => expiries other (List.mem_cons_of_mem _ inside)]
      rfl

theorem taken_expiries {late : List Happening}
    (expiries : ∀ happening ∈ late, ∃ state, happening = .expiry state) :
    late.filterMap Happening.taken = [] := by
  rw [List.filterMap_eq_nil_iff]
  intro happening inside
  obtain ⟨state, rfl⟩ := expiries happening inside
  rfl

theorem markedFor_expiries (key : Key) {late : List Happening}
    (expiries : ∀ happening ∈ late, ∃ state, happening = .expiry state) :
    late.filterMap (Happening.markedFor key) = [] := by
  rw [List.filterMap_eq_nil_iff]
  intro happening inside
  obtain ⟨state, rfl⟩ := expiries happening inside
  rfl

/-- `previous_state` has a value that is the same as the last of the marked lines. -/
def Recalls (previous : Option Json) (last : Option PortState) : Prop :=
  match previous, last with
  | none, none => True
  | some active, some state => SameActive active state.active
  | _, _ => False

/-- What was told is what was returned and what is queued. -/
structure Watching (portDebounceSec : Int) (reader : Reader) (seen late : List Happening) :
    Prop where
  setting : reader.client.portDebounceSec = portDebounceSec
  waiting : ∀ entry ∈ reader.client.pending, entry.state.Readable
  expiries : ∀ happening ∈ late, ∃ state, happening = .expiry state
  recalls : ∀ key, Recalls (reader.client.previousState.get? key)
    (seen.filterMap (Happening.markedFor key)).getLast?
  intake : Intake reader (seen.filterMap Happening.taken)
  queued : ∃ queued : List PortState,
    told portDebounceSec [] seen = reader.reported ++ queued ∧
    reader.client.debouncedQ = (queued ++ late.map Happening.state).map PortState.event ∧
    ∀ state ∈ queued ++ late.map Happening.state, state.Readable

theorem watching_start (portDebounceSec : Int) :
    Watching portDebounceSec (.connected portDebounceSec) [] [] where
  setting := rfl
  waiting := fun _ wrong => by cases wrong
  expiries := fun _ wrong => by cases wrong
  recalls := fun _ => trivial
  intake := intake_connected portDebounceSec
  queued := ⟨[], rfl, rfl, fun _ wrong => by cases wrong⟩

section Stepping

variable {portDebounceSec : Int} {reader after : Reader} {seen late : List Happening}

/-- The reader looks at the queue again, and nothing is late. -/
theorem Watching.flush (watching : Watching portDebounceSec reader seen late) :
    Watching portDebounceSec reader (seen ++ late) [] := by
  obtain ⟨queued, all, queue, readable⟩ := watching.queued
  have expiries := watching.expiries
  refine { watching with
    expiries := fun _ wrong => by cases wrong
    recalls := ?_
    intake := ?_
    queued := ⟨queued ++ late.map Happening.state, ?_, ?_, ?_⟩ }
  · intro key
    rw [List.filterMap_append, markedFor_expiries key expiries, List.append_nil]
    exact watching.recalls key
  · rw [List.filterMap_append, taken_expiries expiries, List.append_nil]
    exact watching.intake
  · rw [told_append, told_expiries portDebounceSec expiries, all, List.append_assoc]
  · rw [queue, List.map_nil, List.append_nil]
  · rw [List.map_nil, List.append_nil]
    exact readable

theorem Watching.keep (watching : Watching portDebounceSec reader seen late)
    (setting : after.client.portDebounceSec = reader.client.portDebounceSec)
    (pending : after.client.pending = reader.client.pending)
    (previous : after.client.previousState = reader.client.previousState)
    (queue : after.client.debouncedQ = reader.client.debouncedQ)
    (reported : after.reported = reader.reported)
    (intake : Intake after (seen.filterMap Happening.taken)) :
    Watching portDebounceSec after seen late := by
  obtain ⟨queued, all, waits, readable⟩ := watching.queued
  exact {
    setting := setting.trans watching.setting
    waiting := by rw [pending]; exact watching.waiting
    expiries := watching.expiries
    recalls := by rw [previous]; exact watching.recalls
    intake
    queued := ⟨queued, by rw [all, reported], queue.trans waits, readable⟩ }

/-- The event at the front of the queue is returned. -/
theorem Watching.serve (watching : Watching portDebounceSec reader seen []) {event : Json}
    {rest : List Json} (queue : reader.client.debouncedQ = event :: rest)
    (same : after.client = { reader.client with debouncedQ := rest })
    (returned : after.returned = reader.returned ++ [event])
    (intake : Intake after (seen.filterMap Happening.taken)) :
    Watching portDebounceSec after seen [] := by
  obtain ⟨queued, all, waits, readable⟩ := watching.queued
  rw [List.map_nil, List.append_nil] at waits readable
  have front : event :: rest = queued.map PortState.event := queue.symm.trans waits
  cases queued with
  | nil => cases front
  | cons state queued =>
      obtain ⟨rfl, rfl⟩ := List.cons.inj front
      obtain ⟨known, plain⟩ := readable state List.mem_cons_self
      have reported : after.reported = reader.reported ++ [state] := by
        unfold Reader.reported
        rw [returned, List.filterMap_append, List.filterMap_cons, portState_event known plain]
        rfl
      refine {
        setting := by rw [same]; exact watching.setting
        waiting := by rw [same]; exact watching.waiting
        expiries := watching.expiries
        recalls := by rw [same]; exact watching.recalls
        intake
        queued := ⟨queued, ?_, ?_, ?_⟩ }
      · rw [all, reported, List.append_assoc]
        rfl
      · rw [List.map_nil, List.append_nil]
        exact congrArg Client.debouncedQ same
      · rw [List.map_nil, List.append_nil]
        exact fun other inside => readable other (List.mem_cons_of_mem _ inside)

/-- An unmarked line is told if it is handed on. -/
theorem Watching.line (watching : Watching portDebounceSec reader seen [])
    {state : PortState} {client : Client} (read : state.Readable)
    (debounced : Debounced { reader.client with buffer := reader.client.remaining } state client)
    (same : after.client = client) (reported : after.reported = reader.reported)
    (intake : Intake after ((seen ++ [Happening.line state]).filterMap Happening.taken)) :
    Watching portDebounceSec after (seen ++ [.line state]) [] := by
  obtain ⟨queued, all, waits, readable⟩ := watching.queued
  rw [List.map_nil, List.append_nil] at waits readable
  have recalls : ∀ key, Recalls (reader.client.previousState.get? key)
      ((seen ++ [Happening.line state]).filterMap (Happening.markedFor key)).getLast? := by
    intro key
    rw [List.filterMap_append]
    exact (List.append_nil (seen.filterMap _)).symm ▸ watching.recalls key
  have uncancelled : ∀ entry ∈ Client.uncancelled
      { reader.client with buffer := reader.client.remaining } state.key,
      entry.state.Readable :=
    fun entry inside => watching.waiting entry (mem_uncancelled_pending inside)
  -- A line that is handed on at once comes at the end of the queue.
  have telling : Happening.telling portDebounceSec seen (.line state) = true →
      after.client.debouncedQ = reader.client.debouncedQ ++ [state.event] →
      ∃ queued : List PortState,
        told portDebounceSec [] (seen ++ [.line state]) = after.reported ++ queued ∧
        after.client.debouncedQ = (queued ++ [].map Happening.state).map PortState.event ∧
        ∀ state ∈ queued ++ [].map Happening.state, state.Readable := by
    intro tells queue
    refine ⟨queued ++ [state], ?_, ?_, ?_⟩
    · rw [told_append, all, reported, told, List.nil_append, if_pos tells, told,
        List.append_assoc]
      rfl
    · rw [queue, List.map_nil, List.append_nil, List.map_append]
      exact congrArg (· ++ [state.event]) waits
    · rw [List.map_nil, List.append_nil]
      intro other inside
      rcases List.mem_append.mp inside with old | new
      · exact readable other old
      · exact List.mem_singleton.mp new ▸ read
  have setting : reader.client.portDebounceSec = portDebounceSec := watching.setting
  cases debounced with
  | immediate zero =>
      exact ⟨by rw [same]; exact setting, by rw [same]; exact watching.waiting,
        watching.expiries, by rw [same]; exact recalls, intake,
        telling (decide_eq_true (.inl (setting ▸ zero))) (by rw [same])⟩
  | up _ active =>
      exact ⟨by rw [same]; exact setting, by rw [same]; exact uncancelled,
        watching.expiries, by rw [same]; exact recalls, intake,
        telling (decide_eq_true (.inr active)) (by rw [same])⟩
  | down delayed inactive =>
      refine ⟨by rw [same]; exact setting, ?_, watching.expiries,
        by rw [same]; exact recalls, intake, queued, ?_, ?_, ?_⟩
      · rw [same]
        intro entry inside
        rcases List.mem_append.mp inside with old | new
        · exact uncancelled entry old
        · exact List.mem_singleton.mp new ▸ read
      · have silent : ¬ Happening.telling portDebounceSec seen (.line state) = true := by
          intro tells
          rcases of_decide_eq_true tells with zero | active
          · exact delayed (setting.trans zero)
          · rw [inactive] at active
            cases active
        rw [told_append, all, reported, told, List.nil_append, if_neg silent, told]
        exact List.append_nil _
      · rw [List.map_nil, List.append_nil, same]
        exact waits
      · rw [List.map_nil, List.append_nil]
        exact readable

theorem markedFor_marked (state : PortState) (key : Key)
    (expiries : ∀ happening ∈ late, ∃ state, happening = .expiry state) :
    (seen ++ .marked state :: late).filterMap (Happening.markedFor key) =
      seen.filterMap (Happening.markedFor key) ++ if state.key = key then [state] else [] := by
  rw [List.filterMap_append, List.filterMap_cons, markedFor_expiries key expiries]
  by_cases same : state.key = key
  · rw [Happening.markedFor, if_pos same, if_pos same]
  · rw [Happening.markedFor, if_neg same, if_neg same]

theorem told_marked (state : PortState)
    (expiries : ∀ happening ∈ late, ∃ state, happening = .expiry state) :
    told portDebounceSec [] (seen ++ .marked state :: late) =
      told portDebounceSec [] seen ++
        ((if Happening.telling portDebounceSec seen (.marked state) then [state] else []) ++
          late.map Happening.state) := by
  rw [told_append, told, List.nil_append, told_expiries portDebounceSec expiries]
  rfl

/-- A marked line comes before the late expirations, and is told if it changes the state
in `previous_state`. -/
theorem Watching.marked (watching : Watching portDebounceSec reader seen late)
    (taking : reader.client.debouncedQ = (late.map Happening.state).map PortState.event)
    (state : PortState)
    (setting : after.client.portDebounceSec = reader.client.portDebounceSec)
    (pending : after.client.pending = reader.client.pending)
    (queue : after.client.debouncedQ = reader.client.debouncedQ)
    (remembers : ∃ active, after.client.previousState.get? state.key = some active ∧
      SameActive active state.active)
    (others : ∀ key, state.key ≠ key →
      after.client.previousState.get? key = reader.client.previousState.get? key)
    (reported : after.reported = reader.reported ++
      if Happening.telling portDebounceSec seen (.marked state) then [state] else [])
    (intake : Intake after ((seen ++ .marked state :: late).filterMap Happening.taken)) :
    Watching portDebounceSec after (seen ++ .marked state :: late) [] := by
  obtain ⟨queued, all, waits, readable⟩ := watching.queued
  have none : queued = [] := by
    have sizes := congrArg List.length (taking.symm.trans waits)
    simp only [List.length_map, List.length_append] at sizes
    exact List.eq_nil_of_length_eq_zero (by omega)
  rw [none, List.append_nil] at all
  rw [none, List.nil_append] at readable
  refine {
    setting := setting.trans watching.setting
    waiting := by rw [pending]; exact watching.waiting
    expiries := fun _ wrong => by cases wrong
    recalls := ?_
    intake
    queued := ⟨late.map Happening.state, ?_, ?_, ?_⟩ }
  · intro key
    rw [markedFor_marked state key watching.expiries]
    by_cases same : state.key = key
    · obtain ⟨active, found, equal⟩ := remembers
      rw [← same, if_pos rfl, List.getLast?_concat, found]
      exact equal
    · rw [if_neg same, List.append_nil, others key same]
      exact watching.recalls key
  · rw [told_marked state watching.expiries, all, reported, List.append_assoc]
  · rw [queue, taking, List.map_nil, List.append_nil]
  · rw [List.map_nil, List.append_nil]
    exact readable

/-- `previous_state` tells whether a marked line differs from the one before it. -/
theorem telling_marked_iff (watching : Watching portDebounceSec reader seen late)
    (state : PortState) :
    Happening.telling portDebounceSec seen (.marked state) = true ↔
      ∀ active, reader.client.previousState.get? state.key = some active →
        ¬ SameActive active state.active := by
  have recalls := watching.recalls state.key
  rw [Happening.telling, decide_eq_true_iff]
  cases found : reader.client.previousState.get? state.key with
  | none =>
      rw [found] at recalls
      cases last : (seen.filterMap (Happening.markedFor state.key)).getLast? with
      | none =>
          constructor
          · intro _ _ wrong
            cases wrong
          · intro _ _ wrong
            cases wrong
      | some state =>
          rw [last] at recalls
          exact recalls.elim
  | some active =>
      rw [found] at recalls
      cases last : (seen.filterMap (Happening.markedFor state.key)).getLast? with
      | none =>
          rw [last] at recalls
          exact recalls.elim
      | some before =>
          rw [last] at recalls
          have equal : SameActive active before.active := recalls
          constructor
          · rintro differs _ ⟨⟩ same
            exact differs before rfl (equal.symm.trans same)
          · rintro differs _ ⟨⟩ same
            exact differs active rfl (equal.trans same)

theorem happening_take (poll : Poll) (placed : reader.position = .take)
    {event : Json} {state : PortState} (came : lineEvent reader.client = some event)
    (read : portState event = some state) :
    happening reader (.advance poll) =
      some (if isDebounced event then .marked state else .line state) := by
  rw [happening, arrivalOf_take placed, arriving_eq came read]
  rfl

/-- The lines of the happenings are those that are taken. -/
theorem happening_taken (reader : Reader) (poll : Poll) :
    (happening reader (.advance poll)).toList.filterMap Happening.taken =
      (arrivalOf reader (.advance poll)).toList := by
  rw [happening]
  cases arrivalOf reader (.advance poll) with
  | none => rfl
  | some arrival =>
      obtain ⟨marked, state⟩ := arrival
      cases marked with
      | true => rfl
      | false => rfl

theorem Watching.intake_advance (watching : Watching portDebounceSec reader seen [])
    (poll : Poll) :
    Intake (reader.advance poll)
      ((seen ++ (happening reader (.advance poll)).toList).filterMap Happening.taken) := by
  rw [List.filterMap_append, happening_taken]
  exact Faucet.intake_advance watching.intake _

/-- A step of the reader on which it takes no marked line. -/
theorem watching_advance (watching : Watching portDebounceSec reader seen late) (poll : Poll)
    (unmarked : ∀ state, happening reader (.advance poll) ≠ some (.marked state)) :
    Watching portDebounceSec (reader.advance poll)
      (seen ++ late ++ (happening reader (.advance poll)).toList) [] := by
  have flushed := watching.flush
  have intake := flushed.intake_advance poll
  have shift : Shift reader (.advance poll) (reader.advance poll) := step_shift reader _
  have nothing : happening reader (.advance poll) = none →
      (seen ++ late) ++ (happening reader (.advance poll)).toList = seen ++ late := by
    intro none
    rw [none, Option.toList_none, List.append_nil]
  cases shift with
  | waited data placed same reported =>
      have none : happening reader (.advance poll) = none := by
        rw [happening, arrivalOf_elsewhere placed, Option.map_none]
      rw [nothing none] at intake ⊢
      exact flushed.keep (by rw [same]) (by rw [same]) (by rw [same]) (by rw [same]) reported intake
  | served event rest placed queue same returned =>
      have none : happening reader (.advance poll) = none := by
        rw [happening, arrivalOf_elsewhere (by rw [placed]; exact nofun), Option.map_none]
      rw [nothing none] at intake ⊢
      exact flushed.serve queue same returned intake
  | passed placed carried same reported =>
      have none : happening reader (.advance poll) = none := by
        rw [happening, arrivalOf_take placed, arriving_eq_none carried, Option.map_none]
      rw [nothing none] at intake ⊢
      exact flushed.keep (by rw [same]) (by rw [same]) (by rw [same]) (by rw [same]) reported intake
  | debounced event state client placed came raw read debounced same reported =>
      have happens : happening reader (.advance poll) = some (.line state) := by
        rw [happening_take _ placed came read, raw]
        rfl
      rw [happens] at intake ⊢
      exact flushed.line (portState_some read) debounced same reported intake
  | stale event state active placed came processed read found repeated same reported =>
      have happens := happening_take poll placed came read
      rw [processed] at happens
      exact absurd happens (unmarked state)
  | marked event state placed came processed read fresh same reported =>
      have happens := happening_take poll placed came read
      rw [processed] at happens
      exact absurd happens (unmarked state)

/-- A marked line is taken. -/
theorem watching_marked (watching : Watching portDebounceSec reader seen late) {poll : Poll}
    {state : PortState} (happens : happening reader (.advance poll) = some (.marked state))
    (taking : reader.position = .take →
      reader.client.debouncedQ = (late.map Happening.state).map PortState.event) :
    Watching portDebounceSec (reader.advance poll) (seen ++ .marked state :: late) [] := by
  have intake : Intake (reader.advance poll)
      ((seen ++ .marked state :: late).filterMap Happening.taken) := by
    have taken := Faucet.intake_advance watching.intake poll
    rw [← happening_taken, happens] at taken
    rw [List.filterMap_append, List.filterMap_cons, taken_expiries watching.expiries]
    exact taken
  have shift : Shift reader (.advance poll) (reader.advance poll) := step_shift reader _
  cases shift with
  | waited data placed =>
      rw [happening, arrivalOf_elsewhere placed] at happens
      cases happens
  | served event rest placed =>
      rw [happening, arrivalOf_elsewhere (by rw [placed]; exact nofun)] at happens
      cases happens
  | passed placed carried =>
      rw [happening, arrivalOf_take placed, arriving_eq_none carried] at happens
      cases happens
  | debounced event other client placed came raw read =>
      rw [happening_take _ placed came read, raw] at happens
      cases happens
  | stale event other active placed came processed read found repeated same reported =>
      rw [happening_take _ placed came read, processed] at happens
      cases happens
      have silent : ¬ Happening.telling portDebounceSec seen (.marked state) = true :=
        fun tells => (telling_marked_iff watching state).mp tells active found repeated
      refine watching.marked (taking placed) state (by rw [same]) (by rw [same]) (by rw [same])
        ⟨active, by rw [same]; exact found, repeated⟩ (fun key _ => by rw [same]) ?_ intake
      rw [reported, if_neg silent, List.append_nil]
  | marked event other placed came processed read fresh same reported =>
      rw [happening_take _ placed came read, processed] at happens
      cases happens
      refine watching.marked (taking placed) state (by rw [same]) (by rw [same]) (by rw [same])
        ⟨state.active, by rw [same]; exact Dict.get?_insert_self .., .inl rfl⟩
        (fun key apart => by rw [same]; exact Dict.get?_insert_of_ne _ _ (Ne.symm apart)) ?_ intake
      rw [reported, if_pos ((telling_marked_iff watching state).mpr fresh)]

theorem watching_expire (watching : Watching portDebounceSec reader seen late) (timer : Nat) :
    Watching portDebounceSec (reader.expire timer) seen
      (late ++ (happening reader (.expire timer)).toList) := by
  have intake := intake_expire timer watching.intake
  have shift : Shift reader (.expire timer) (reader.expire timer) := step_shift reader _
  generalize reader.expire timer = after at shift intake
  cases shift with
  | idle none =>
      rw [happening, none, Option.map_none, Option.toList_none, List.append_nil]
      exact watching
  | expired entry found same placed reported =>
      obtain ⟨queued, all, waits, readable⟩ := watching.queued
      rw [happening, found, Option.map_some, Option.toList_some]
      refine {
        setting := by rw [same]; exact watching.setting
        waiting := by
          rw [same]
          exact fun other inside => watching.waiting other (List.mem_of_mem_filter inside)
        expiries := ?_
        recalls := by rw [same]; exact watching.recalls
        intake
        queued := ⟨queued, by rw [all, reported], ?_, ?_⟩ }
      · intro happening inside
        rcases List.mem_append.mp inside with old | new
        · exact watching.expiries happening old
        · exact ⟨entry.state, List.mem_singleton.mp new⟩
      · have longer : queued ++ (late ++ [Happening.expiry entry.state]).map Happening.state =
            (queued ++ late.map Happening.state) ++ [entry.state] := by
          rw [List.map_append, ← List.append_assoc]
          rfl
        rw [same, longer, List.map_append, ← waits]
        rfl
      · rw [List.map_append, ← List.append_assoc]
        intro state inside
        rcases List.mem_append.mp inside with old | new
        · exact readable state old
        · rw [List.mem_singleton.mp new]
          exact watching.waiting entry (List.mem_of_find?_eq_some found)

end Stepping

/-! Runs. -/

/-- The invariant of a watched run. -/
structure Watched (portDebounceSec : Int) (watch : Watch) : Prop where
  watching : Watching portDebounceSec watch.reader watch.seen watch.late
  taking : watch.reader.position = .take →
    watch.reader.client.debouncedQ = (watch.late.map Happening.state).map PortState.event

theorem taking_advance {reader : Reader} {poll : Poll}
    (placed : (reader.advance poll).position = .take) :
    (reader.advance poll).client.debouncedQ = [] := by
  obtain ⟨same, _, empty⟩ := (advance_onward reader poll).taking placed
  rw [same]
  exact empty

theorem step_unmarked {watch : Watch} {poll : Poll}
    (unmarked : ∀ state, happening watch.reader (.advance poll) ≠ some (.marked state)) :
    watch.step (.advance poll) = ⟨watch.reader.advance poll,
      watch.seen ++ watch.late ++ (happening watch.reader (.advance poll)).toList, []⟩ := by
  unfold Watch.step
  split
  · rename_i wrong
    cases wrong
  · rename_i same happens
    cases same
    exact absurd happens (unmarked _)
  · rename_i same _
    cases same
    rfl

theorem step_marked {watch : Watch} {poll : Poll} {state : PortState}
    (happens : happening watch.reader (.advance poll) = some (.marked state)) :
    watch.step (.advance poll) =
      ⟨watch.reader.advance poll, watch.seen ++ .marked state :: watch.late, []⟩ := by
  unfold Watch.step
  rw [happens]

theorem watched_step {portDebounceSec : Int} {watch : Watch} (move : Move)
    (watched : Watched portDebounceSec watch) : Watched portDebounceSec (watch.step move) := by
  cases move with
  | expire timer =>
      refine ⟨watching_expire watched.watching timer, fun placed => ?_⟩
      have before := watched.taking
      have shift : Shift watch.reader (.expire timer) (watch.reader.expire timer) :=
        step_shift watch.reader _
      dsimp only [Watch.step] at placed ⊢
      generalize watch.reader.expire timer = after at shift placed
      cases shift with
      | idle none =>
          rw [happening, none, Option.map_none, Option.toList_none, List.append_nil]
          exact before placed
      | expired entry found same place =>
          rw [happening, found, Option.map_some, Option.toList_some, same, List.map_append,
            List.map_append, ← before (place ▸ placed)]
          rfl
  | advance poll =>
      by_cases marked : ∃ state, happening watch.reader (.advance poll) = some (.marked state)
      · obtain ⟨state, happens⟩ := marked
        rw [step_marked happens]
        exact ⟨watching_marked watched.watching happens watched.taking, taking_advance⟩
      · have unmarked := not_exists.mp marked
        rw [step_unmarked unmarked]
        exact ⟨watching_advance watched.watching poll unmarked, taking_advance⟩

theorem watched_run (portDebounceSec : Int) (moves : List Move) :
    Watched portDebounceSec (watched portDebounceSec moves) := by
  unfold watched
  induction moves using List.reverseRecOn with
  | nil => exact ⟨watching_start portDebounceSec, fun wrong => by cases wrong⟩
  | append_singleton moves move before =>
      rw [List.foldl_append]
      exact watched_step move before

theorem watched_reader (portDebounceSec : Int) (moves : List Move) :
    (watched portDebounceSec moves).reader =
      moves.foldl (fun reader move => move.step reader) (.connected portDebounceSec) := by
  unfold watched
  induction moves using List.reverseRecOn with
  | nil => rfl
  | append_singleton moves move before =>
      rw [List.foldl_append, List.foldl_append, ← before]
      exact step_reader _ move

/-- In every run, whose happenings have the lines that were taken of those received: if
no happening of a port tells the value of the one before it, no two events in a row that
are returned of the port have the same value; and once the queue has been drained, only
then. -/
theorem reported_alternates (portDebounceSec : Int) (moves : List Move) (dpid port : Int) :
    let reader := moves.foldl (fun reader move => move.step reader) (.connected portDebounceSec)
    let happenings := (watched portDebounceSec moves).happenings
    (arrivals reader.client.incoming =
        happenings.filterMap Happening.taken ++ arrivals reader.client.buffer) ∧
      (Changing portDebounceSec dpid port happenings →
        (reader.reported.filter (PortState.on dpid port)).IsChain Differs) ∧
      (reader.client.debouncedQ = [] →
        (reader.reported.filter (PortState.on dpid port)).IsChain Differs →
        Changing portDebounceSec dpid port happenings) := by
  intro reader happenings
  have watching := (watched_run portDebounceSec moves).watching
  rw [watched_reader] at watching
  obtain ⟨queued, all, waits, _⟩ := watching.queued
  have happened : told portDebounceSec [] happenings = reader.reported ++
      (queued ++ (watched portDebounceSec moves).late.map Happening.state) := by
    rw [← List.append_assoc, ← all, ← told_expiries portDebounceSec watching.expiries,
      ← told_append]
    rfl
  refine ⟨?_, ?_, ?_⟩
  · have arrived := watching.intake.arrivals []
    rw [List.append_nil, List.append_nil] at arrived
    rw [show happenings = (watched portDebounceSec moves).seen ++
      (watched portDebounceSec moves).late from rfl, List.filterMap_append,
      taken_expiries watching.expiries, List.append_nil]
    exact arrived
  · intro changing
    rw [Changing, happened, List.filter_append] at changing
    exact changing.left_of_append
  · intro drained alternates
    rw [drained] at waits
    rw [Changing, happened, List.map_eq_nil_iff.mp waits.symm, List.append_nil]
    exact alternates

namespace Sample

/-- `{"dp_id":1,"PORT_CHANGE":{"port_no":2,"status":false,"reason":"MODIFY"},"debounced":true}` -/
def markedDown : Bytes :=
  portDown.dropLast.dropLast ++
    [44, 34, 100, 101, 98, 111, 117, 110, 99, 101, 100, 34, 58, 116, 114, 117, 101, 125, 10]

/-- The port is up, is marked as down, is up again and goes down, and its timer fires. -/
def changing : List Move :=
  .advance .silent :: .advance (.received (portUp ++ markedDown ++ portUp ++ portDown)) ::
    List.replicate 25 (.advance .silent) ++ .expire 0 :: List.replicate 3 (.advance .silent)

def changed : Reader :=
  changing.foldl (fun reader move => Move.step move reader) (.connected 5)

theorem changed_alternates :
    changed.reported = [⟨.int 1, 2, .bool true⟩, ⟨.int 1, 2, .bool false⟩,
        ⟨.int 1, 2, .bool true⟩, ⟨.int 1, 2, .bool false⟩] ∧
      Changing 5 1 2 (watched 5 changing).happenings ∧
      (changed.reported.filter (PortState.on 1 2)).IsChain Differs := by
  have differ : Changing 5 1 2 (watched 5 changing).happenings := by decide +kernel
  exact ⟨by decide +kernel, differ, (reported_alternates 5 changing 1 2).2.1 differ⟩

/-- The same line comes in twice. -/
def twice : List Move :=
  .advance .silent :: .advance (.received (portUp ++ portUp)) ::
    List.replicate 11 (.advance .silent)

def twiceUp : Reader := twice.foldl (fun reader move => Move.step move reader) (.connected 0)

theorem repeated_state_reported :
    ¬ ∀ (portDebounceSec : Int) (reader : Reader),
      Reaches Move.step (fun _ _ => True) (.connected portDebounceSec) reader →
        ∀ dpid port : Int, (reader.reported.filter (PortState.on dpid port)).IsChain Differs := by
  intro always
  have chain := always 0 twiceUp (Reaches.foldl (fun _ _ => trivial) twice) 1 2
  have reported : twiceUp.reported.filter (PortState.on 1 2) =
      [⟨.int 1, 2, .bool true⟩, ⟨.int 1, 2, .bool true⟩] := by decide +kernel
  rw [reported, List.isChain_cons_cons] at chain
  exact chain.1 (.inl rfl)

end Sample

end Daq.Faucet
