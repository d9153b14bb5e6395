import Daq.Faucet.Debounce
import Daq.Faucet.Stream

namespace Daq.Faucet

open Exec

/-! The states of ports that the received lines report, from a line that comes in to
the event that is debounced. -/

/-- The states an event reports of ports, each with whether it is marked as debounced.
The ports of a status stand in the order in which they are put in front of the buffer. -/
def eventStates (event : Json) : List (Bool × PortState) :=
  match portState event with
  | some state => [(isDebounced event, state)]
  | none => (pushedBack event).filterMap fun pushed =>
      (portState pushed).map fun state => (false, state)

/-- What the complete lines of a text report, in their order. -/
def arrivals (text : List Char) : List (Bool × PortState) :=
  (completeLines text).flatMap fun line => ((Json.loads line).map eventStates).getD []

def unmarkedStates (arrived : List (Bool × PortState)) : List PortState :=
  (arrived.filter fun arrival => !arrival.1).map Prod.snd

def markedStates (arrived : List (Bool × PortState)) : List PortState :=
  (arrived.filter fun arrival => arrival.1).map Prod.snd

/-- The states that are to be debounced. -/
def received (text : List Char) : List PortState := unmarkedStates (arrivals text)

theorem unmarkedStates_append (first second : List (Bool × PortState)) :
    unmarkedStates (first ++ second) = unmarkedStates first ++ unmarkedStates second := by
  rw [unmarkedStates, List.filter_append, List.map_append]
  rfl

theorem markedStates_append (first second : List (Bool × PortState)) :
    markedStates (first ++ second) = markedStates first ++ markedStates second := by
  rw [markedStates, List.filter_append, List.map_append]
  rfl

theorem arrivals_line {line : List Char} (whole : '\n' ∉ line) (rest : List Char) :
    arrivals (line ++ '\n' :: rest) =
      ((Json.loads line).map eventStates).getD [] ++ arrivals rest := by
  rw [arrivals, completeLines_line whole, List.flatMap_cons]
  rfl

/-! The lines that are pushed back. -/

theorem eventStates_makePortState (dpid port status : Json) :
    eventStates (makePortState dpid port status false) =
      ((portState (makePortState dpid port status false)).map fun state =>
        (false, state)).toList := by
  have unlisted : asPortsStatus (makePortState dpid port status false) = .ok none := rfl
  have nothing : pushedBack (makePortState dpid port status false) = [] := by
    unfold pushedBack
    rw [unlisted]
    split
    · rename_i wrong
      cases wrong
    · rfl
  unfold eventStates
  rw [nothing]
  cases portState (makePortState dpid port status false) with
  | none => rfl
  | some state => rfl

theorem mem_listed {entry : Json × Json} {ports : List (Json × Except Raised Json)}
    (inside : entry ∈ listed ports) : (entry.1, Except.ok entry.2) ∈ ports := by
  induction ports with
  | nil => cases inside
  | cons head rest shorter =>
      obtain ⟨port, status⟩ := head
      cases status with
      | error raised => cases inside
      | ok status =>
          rcases List.mem_cons.mp inside with rfl | later
          · exact List.mem_cons_self
          · exact List.mem_cons_of_mem _ (shorter later)

theorem pushedBack_sound {event pushed : Json} (sound : event.Sound)
    (inside : pushed ∈ pushedBack event) :
    pushed.Sound ∧ ∃ dpid port status, pushed = makePortState dpid port status false := by
  unfold pushedBack at inside
  split at inside
  · rename_i dpid status _ _ read
    split at inside
    · split at inside
      · rename_i ports opened
        obtain ⟨identified, stated⟩ := asPortsStatus_sound sound read
        obtain ⟨entry, held, rfl⟩ := List.mem_map.mp inside
        obtain ⟨numbered, valued⟩ := portsOf_sound stated opened _
          (mem_listed (List.mem_reverse.mp held)) entry.2 rfl
        exact ⟨makePortState_sound identified numbered valued, dpid, entry.1, entry.2, rfl⟩
      · cases inside
    · cases inside
  · cases inside

theorem arrivals_pushedLines {events : List Json}
    (pushed : ∀ event ∈ events,
      event.Sound ∧ ∃ dpid port status, event = makePortState dpid port status false)
    (rest : List Char) :
    arrivals (pushedLines events ++ rest) =
      (events.filterMap fun event => (portState event).map fun state => (false, state)) ++
        arrivals rest := by
  induction events with
  | nil => rfl
  | cons event events shorter =>
      obtain ⟨sound, dpid, port, status, made⟩ := pushed event List.mem_cons_self
      have line : pushedLines (event :: events) ++ rest =
          Json.dumps event ++ '\n' :: (pushedLines events ++ rest) := by
        simp [pushedLines]
      rw [line, arrivals_line (Json.dumps_oneLine _ sound), Json.loads_dumps sound,
        shorter fun other inside => pushed other (List.mem_cons_of_mem _ inside), Option.map_some,
        Option.getD_some, made, eventStates_makePortState, List.filterMap_cons]
      cases portState (makePortState dpid port status false) with
      | none => rfl
      | some state => rfl

/-! Taking a line. -/

/-- The state of a port on the line that is about to be taken, and whether it is
marked as debounced. -/
def arriving (client : Client) : Option (Bool × PortState) :=
  (lineEvent client).bind fun event =>
    (portState event).map fun state => (isDebounced event, state)

/-- What is in the buffer reports what the line reports that is taken and what is in
the buffer after that. -/
theorem arrivals_taken {client : Client} (complete : '\n' ∈ client.buffer)
    (future : List Char) :
    arrivals (client.buffer ++ future) =
      (arriving client).toList ++ arrivals (client.remaining ++ future) := by
  obtain ⟨line, rest, text, whole⟩ := List.eq_append_cons_of_mem complete
  have split : splitLine client.buffer = (line, rest) := by
    rw [text]
    exact splitLine_line whole rest
  have came : lineEvent client = Json.loads line := by
    unfold lineEvent
    rw [split]
  unfold Client.remaining arriving
  rw [text, List.append_assoc, List.cons_append, arrivals_line whole, ← text, split, came]
  cases parsed : Json.loads line with
  | none => rfl
  | some event =>
      rw [Option.map_some, Option.getD_some, Option.map_some, Option.getD_some, Option.bind_some,
        List.append_assoc, arrivals_pushedLines fun pushed inside =>
          pushedBack_sound (Json.loads_sound parsed) inside, ← List.append_assoc]
      congr 1
      unfold eventStates
      cases carried : portState event with
      | none => rfl
      | some state =>
          rw [pushedBack_portState carried]
          rfl

/-- What a move takes off the buffer. -/
def arrivalOf (reader : Reader) : Move → Option (Bool × PortState)
  | .expire _ => none
  | .advance _ => if reader.position = .take then arriving reader.client else none

theorem arrivalOf_take {reader : Reader} (placed : reader.position = .take) (poll : Poll) :
    arrivalOf reader (.advance poll) = arriving reader.client := if_pos placed

theorem arrivalOf_elsewhere {reader : Reader} (placed : reader.position ≠ .take) (poll : Poll) :
    arrivalOf reader (.advance poll) = none := if_neg placed

theorem arriving_eq {client : Client} {event : Json} {state : PortState}
    (came : lineEvent client = some event) (read : portState event = some state) :
    arriving client = some (isDebounced event, state) := by
  unfold arriving
  rw [came, Option.bind_some, read]
  rfl

theorem arriving_eq_none {client : Client}
    (carried : ∀ event, lineEvent client = some event → portState event = none) :
    arriving client = none := by
  unfold arriving
  cases came : lineEvent client with
  | none => rfl
  | some event =>
      rw [Option.bind_some, carried event came]
      rfl

/-- What was received reports what was taken and what is in the buffer, whatever comes
next; what was taken unmarked was given to debouncing. -/
structure Intake (reader : Reader) (taken : List (Bool × PortState)) : Prop where
  ready : reader.position = .take ∨ reader.position = .serve ∧ reader.client.debouncedQ = [] →
    '\n' ∈ reader.client.buffer
  arrivals : ∀ future, arrivals (reader.client.incoming ++ future) =
    taken ++ arrivals (reader.client.buffer ++ future)
  heard : reader.client.heard = unmarkedStates taken
  marked : reader.client.marked.Sublist (markedStates taken)

theorem intake_connected (portDebounceSec : Int) : Intake (.connected portDebounceSec) [] where
  ready := by
    rintro (wrong | ⟨wrong, _⟩)
    · cases wrong
    · cases wrong
  arrivals := fun _ => rfl
  heard := rfl
  marked := .slnil

theorem Onward.ready {reader after : Reader} {taken : List (Bool × PortState)}
    (onward : Onward reader after) (intake : Intake reader taken) :
    after.position = .take ∨ after.position = .serve ∧ after.client.debouncedQ = [] →
      '\n' ∈ after.client.buffer := by
  rintro (taking | ⟨serving, empty⟩)
  · obtain ⟨same, placed, empty⟩ := onward.taking taking
    rw [same]
    exact intake.ready (.inr ⟨placed, empty⟩)
  · obtain ⟨same, occupied | complete⟩ := onward.serving serving
    · exact absurd (same ▸ empty) occupied
    · exact same ▸ complete

/-- A line that is taken reports what it is to report. -/
theorem Intake.take {reader after : Reader} {taken : List (Bool × PortState)}
    (intake : Intake reader taken) (onward : Onward reader after)
    (placed : reader.position = .take) {arrival : Option (Bool × PortState)}
    (arrives : arriving reader.client = arrival)
    (buffer : after.client.buffer = reader.client.remaining)
    (incoming : after.client.incoming = reader.client.incoming)
    (heard : after.client.heard = reader.client.heard ++ unmarkedStates arrival.toList)
    (marked : after.client.marked.Sublist
      (reader.client.marked ++ markedStates arrival.toList)) :
    Intake after (taken ++ arrival.toList) where
  ready := onward.ready intake
  arrivals := by
    intro future
    rw [incoming, buffer, intake.arrivals, arrivals_taken (intake.ready (.inl placed)), arrives,
      List.append_assoc]
  heard := by rw [heard, intake.heard, unmarkedStates_append]
  marked := by
    rw [markedStates_append]
    exact marked.trans (intake.marked.append (List.Sublist.refl _))

theorem Debounced.received {client after : Client} {state : PortState}
    (debounced : Debounced client state after) :
    after.buffer = client.buffer ∧ after.incoming = client.incoming ∧
      after.heard = client.heard ++ [state] ∧ after.marked = client.marked := by
  cases debounced with
  | immediate => exact ⟨rfl, rfl, rfl, rfl⟩
  | up => exact ⟨rfl, rfl, rfl, rfl⟩
  | down => exact ⟨rfl, rfl, rfl, rfl⟩

theorem intake_advance {reader : Reader} {taken : List (Bool × PortState)}
    (intake : Intake reader taken) (poll : Poll) :
    Intake (reader.advance poll) (taken ++ (arrivalOf reader (.advance poll)).toList) := by
  have onward := advance_onward reader poll
  have shift : Shift reader (.advance poll) (reader.advance poll) := step_shift reader _
  cases shift with
  | waited data placed same =>
      rw [arrivalOf_elsewhere placed, Option.toList_none, List.append_nil]
      refine ⟨onward.ready intake, fun future => ?_, by rw [same]; exact intake.heard,
        by rw [same]; exact intake.marked⟩
      rw [same, List.append_assoc, List.append_assoc]
      exact intake.arrivals _
  | served event rest placed queue same =>
      rw [arrivalOf_elsewhere (by rw [placed]; exact nofun), Option.toList_none, List.append_nil]
      refine ⟨onward.ready intake, fun future => ?_, by rw [same]; exact intake.heard,
        by rw [same]; exact intake.marked⟩
      rw [same]
      exact intake.arrivals _
  | passed placed carried same =>
      rw [arrivalOf_take placed]
      have none := arriving_eq_none carried
      rw [none]
      refine intake.take onward placed none (by rw [same]) (by rw [same]) ?_ ?_
      · rw [same]
        exact (List.append_nil _).symm
      · rw [same]
        exact List.sublist_append_left _ _
  | debounced event state client placed came raw read debounced same =>
      rw [arrivalOf_take placed]
      have arrives := arriving_eq came read
      rw [raw] at arrives
      rw [arrives]
      obtain ⟨buffer, incoming, heard, marked⟩ := debounced.received
      refine intake.take onward placed arrives (by rw [same, buffer]) (by rw [same, incoming]) ?_ ?_
      · rw [same, heard]
        rfl
      · rw [same, marked]
        exact List.sublist_append_left _ _
  | stale event state active placed came processed read found repeated same =>
      rw [arrivalOf_take placed]
      have arrives := arriving_eq came read
      rw [processed] at arrives
      rw [arrives]
      refine intake.take onward placed arrives (by rw [same]) (by rw [same]) ?_ ?_
      · rw [same]
        exact (List.append_nil _).symm
      · rw [same]
        exact List.sublist_append_left _ _
  | marked event state placed came processed read fresh same =>
      rw [arrivalOf_take placed]
      have arrives := arriving_eq came read
      rw [processed] at arrives
      rw [arrives]
      refine intake.take onward placed arrives (by rw [same]) (by rw [same]) ?_ ?_
      · rw [same]
        exact (List.append_nil _).symm
      · rw [same]
        exact List.Sublist.refl _

theorem intake_expire {reader : Reader} (timer : Nat) {taken : List (Bool × PortState)}
    (intake : Intake reader taken) : Intake (reader.expire timer) taken := by
  have shift : Shift reader (.expire timer) (reader.expire timer) := step_shift reader _
  generalize reader.expire timer = after at shift
  cases shift with
  | idle => exact intake
  | expired entry found same placed =>
      refine ⟨?_, by rw [same]; exact intake.arrivals, by rw [same]; exact intake.heard,
        by rw [same]; exact intake.marked⟩
      rw [placed, same]
      rintro (taking | ⟨_, wrong⟩)
      · exact intake.ready (.inl taking)
      · exact absurd wrong (List.append_ne_nil_of_right_ne_nil _ (List.cons_ne_nil _ _))

theorem intake_step {reader : Reader} {move : Move} {taken : List (Bool × PortState)}
    (intake : Intake reader taken) :
    Intake (move.step reader) (taken ++ (arrivalOf reader move).toList) := by
  cases move with
  | advance poll => exact intake_advance intake poll
  | expire timer =>
      rw [arrivalOf, Option.toList_none, List.append_nil]
      exact intake_expire timer intake

theorem intake_reached {portDebounceSec : Int} {allowed : Reader → Move → Prop} {reader : Reader}
    (reached : Reaches Move.step allowed (.connected portDebounceSec) reader) :
    ∃ taken, Intake reader taken := by
  refine reached.invariant (fun reader => ∃ taken, Intake reader taken)
    ⟨[], intake_connected portDebounceSec⟩ ?_
  rintro state move ⟨taken, intake⟩ _
  exact ⟨_, intake_step intake⟩

theorem Intake.received_eq {reader : Reader} {taken : List (Bool × PortState)}
    (intake : Intake reader taken) :
    received reader.client.incoming = reader.client.heard ++ received reader.client.buffer := by
  have arrived := intake.arrivals []
  rw [List.append_nil, List.append_nil] at arrived
  rw [received, arrived, unmarkedStates_append, intake.heard]
  rfl

theorem Intake.unmarked {reader : Reader} {taken : List (Bool × PortState)}
    (intake : Intake reader taken) {which : PortState → Bool}
    (none : (markedStates (Faucet.arrivals reader.client.incoming)).filter which = []) :
    reader.client.marked.filter which = [] := by
  have arrived := intake.arrivals []
  rw [List.append_nil, List.append_nil] at arrived
  rw [arrived, markedStates_append, List.filter_append] at none
  have before := (List.append_eq_nil_iff.mp none).1
  exact List.sublist_nil.mp (before ▸ intake.marked.filter which)

/-- However events come in and timers fire, with `heard` the states on the received
lines that have been taken: what is returned of a port is a first part of what came out
of debouncing, in the order in which it was received, and nothing comes out that another
event of the port has overtaken by then.  When no timer is pending and the queue is
empty, the last event returned of a port is the last one received. -/
theorem debouncing_keeps_last {portDebounceSec : Int} (positive : 0 < portDebounceSec)
    {reader : Reader}
    (reached : Reaches Move.step (fun _ _ => True) (.connected portDebounceSec) reader)
    (numbered : ∀ state ∈ received reader.client.incoming, ∃ id, state.dpid = .int id)
    (dpid port : Int)
    (unmarked : (markedStates (arrivals reader.client.incoming)).filter
      (PortState.on dpid port) = []) :
    (received reader.client.incoming =
        reader.client.heard ++ received reader.client.buffer) ∧
      (reader.reported.filter (PortState.on dpid port) <+:
        (reader.client.handled.filter fun entry => entry.state.on dpid port).map Handled.state) ∧
      ((reader.client.handled.filter fun entry => entry.state.on dpid port).Pairwise
        fun first second => first.index < second.index) ∧
      (∀ entry ∈ reader.client.handled, entry.state.on dpid port = true →
        reader.client.heard[entry.index]? = some entry.state ∧
        ∀ later other, entry.index < later → later < entry.heard →
          reader.client.heard[later]? = some other → other.on dpid port = false) ∧
      (reader.client.pending = [] → reader.client.debouncedQ = [] →
        (reader.reported.filter (PortState.on dpid port)).getLast? =
          (reader.client.heard.filter (PortState.on dpid port)).getLast?) := by
  obtain ⟨_, timing⟩ := timing_reached (Int.ne_of_gt positive) reached
  obtain ⟨served, queued, all, waits, from_⟩ := (passing_reached reached).queued
  obtain ⟨taken, intake⟩ := intake_reached reached
  have reported := (from_ (PortState.on dpid port)).1 (intake.unmarked unmarked)
  have heard_numbered : ∀ state ∈ reader.client.heard, ∃ id, state.dpid = .int id := by
    intro state inside
    refine numbered state ?_
    rw [intake.received_eq]
    exact List.mem_append_left _ inside
  refine ⟨intake.received_eq, ?_, timing.increasing dpid port, ?_, ?_⟩
  · rw [reported]
    refine ⟨queued.filter (PortState.on dpid port), ?_⟩
    rw [← List.filter_append, ← all, List.filter_map]
    rfl
  · intro entry inside on
    obtain ⟨place, _, _, apart⟩ := timing.sound entry inside
    refine ⟨place, fun later other after before found => Bool.eq_false_iff.mpr fun also => ?_⟩
    exact apart later other after before found ((key_of_on also).trans (key_of_on on).symm)
  · intro still drained
    rw [drained] at waits
    have none : queued = [] := List.map_eq_nil_iff.mp waits.symm
    rw [none, List.append_nil] at all
    rw [reported, ← all]
    exact timing.last_handled heard_numbered still

namespace Sample

/-- `{"dp_id":1,"PORT_CHANGE":{"port_no":2,"status":false,"reason":"MODIFY"}}` -/
def portDown : Bytes :=
  [123, 34, 100, 112, 95, 105, 100, 34, 58, 49, 44, 34, 80, 79, 82, 84, 95, 67, 72, 65, 78, 71,
    69, 34, 58, 123, 34, 112, 111, 114, 116, 95, 110, 111, 34, 58, 50, 44, 34, 115, 116, 97, 116,
    117, 115, 34, 58, 102, 97, 108, 115, 101, 44, 34, 114, 101, 97, 115, 111, 110, 34, 58, 34, 77,
    79, 68, 73, 70, 89, 34, 125, 125, 10]

/-- `{"dp_id":1,"PORT_CHANGE":{"port_no":2,"status":true,"reason":"MODIFY"}}` -/
def portUp : Bytes :=
  [123, 34, 100, 112, 95, 105, 100, 34, 58, 49, 44, 34, 80, 79, 82, 84, 95, 67, 72, 65, 78, 71,
    69, 34, 58, 123, 34, 112, 111, 114, 116, 95, 110, 111, 34, 58, 50, 44, 34, 115, 116, 97, 116,
    117, 115, 34, 58, 116, 114, 117, 101, 44, 34, 114, 101, 97, 115, 111, 110, 34, 58, 34, 77, 79,
    68, 73, 70, 89, 34, 125, 125, 10]

/-- The port goes down and up again, and a status comes in that has port 2 up and port 3
down; then the timer of port 3 fires. -/
def settling : List Move :=
  .advance .silent :: .advance (.received (portDown.take 30)) ::
    .advance (.received (portDown.drop 30 ++ portUp ++ chunk ++ nextChunk)) ::
    List.replicate 26 (.advance .silent) ++ .expire 1 :: List.replicate 3 (.advance .silent)

def settled : Reader := settling.foldl (fun reader move => Move.step move reader) (.connected 5)

theorem settled_reached :
    Reaches Move.step (fun _ _ => True) (.connected 5) settled :=
  Reaches.foldl (fun _ _ => trivial) settling

theorem settled_received : received settled.client.incoming =
    [⟨.int 1, 2, .bool false⟩, ⟨.int 1, 2, .bool true⟩, ⟨.int 1, 3, .bool false⟩,
      ⟨.int 1, 2, .bool true⟩] := by
  decide +kernel

theorem settled_returned :
    settled.client.pending = [] ∧ settled.client.debouncedQ = [] ∧
      settled.reported =
        [⟨.int 1, 2, .bool true⟩, ⟨.int 1, 2, .bool true⟩, ⟨.int 1, 3, .bool false⟩] ∧
      received settled.client.incoming =
        settled.client.heard ++ received settled.client.buffer ∧
      (settled.reported.filter (PortState.on 1 2)).getLast? =
        (settled.client.heard.filter (PortState.on 1 2)).getLast? := by
  have still : settled.client.pending = [] := by decide +kernel
  have drained : settled.client.debouncedQ = [] := by decide +kernel
  have numbered : ∀ state ∈ received settled.client.incoming, ∃ id, state.dpid = .int id := by
    rw [settled_received]
    simp
  obtain ⟨received, _, _, _, last⟩ := debouncing_keeps_last (by decide) settled_reached
    numbered 1 2 (by decide +kernel)
  exact ⟨still, drained, by decide +kernel, received, last still drained⟩

end Sample

end Daq.Faucet
