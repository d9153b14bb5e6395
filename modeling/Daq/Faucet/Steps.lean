import Daq.Faucet.Client
import Daq.Lib.Fallible

namespace Daq.Faucet

open Exec

/-! What a step of the loop can do. -/

/-- The state an event reports of a port. -/
def portState (event : Json) : Option PortState :=
  match asPortState event with
  | .ok found => found.filter fun state => decide (truthy state.dpid = true ∧ state.port ≠ 0)
  | .error _ => none

def PortState.Known (state : PortState) : Prop := truthy state.dpid = true ∧ state.port ≠ 0

/-- An active value is true or false to Python. -/
def PortState.Plain (state : PortState) : Prop :=
  truthy state.active = true → state.active = .bool true

theorem asPortState_plain {event : Json} {state : PortState}
    (read : asPortState event = .ok (some state)) : state.Plain := by
  unfold asPortState at read
  split at read
  · cases read
  · obtain ⟨applicable, _, read⟩ := Fallible.bind_eq_ok_iff.mp read
    split at read
    · cases read
    · obtain ⟨_, _, read⟩ := Fallible.bind_eq_ok_iff.mp read
      obtain ⟨_, _, read⟩ := Fallible.bind_eq_ok_iff.mp read
      obtain ⟨_, _, read⟩ := Fallible.bind_eq_ok_iff.mp read
      obtain ⟨_, _, read⟩ := Fallible.bind_eq_ok_iff.mp read
      obtain ⟨reason, _, read⟩ := Fallible.bind_eq_ok_iff.mp read
      obtain ⟨status, _, read⟩ := Fallible.bind_eq_ok_iff.mp read
      cases read
      intro active
      dsimp only at active ⊢
      split at active
      · rename_i up
        rw [if_pos up]
        exact congrArg Json.bool active
      · rename_i down
        exact absurd active down

theorem asPortState_event {state : PortState} (plain : state.Plain) :
    asPortState state.event = .ok (some state) := by
  have read : asPortState state.event = .ok (some { state with
      active := if truthy state.active then .bool true else state.active }) := rfl
  rw [read]
  split
  · rename_i up
    rw [← plain up]
  · rfl

theorem portState_event {state : PortState} (known : state.Known) (plain : state.Plain) :
    portState state.event = some state := by
  unfold portState
  rw [asPortState_event plain]
  exact Option.filter_some_pos (decide_eq_true known)

theorem portState_some {event : Json} {state : PortState}
    (read : portState event = some state) : state.Known ∧ state.Plain := by
  unfold portState at read
  split at read
  · rename_i found parsed
    obtain ⟨same, known⟩ := Option.filter_eq_some_iff.mp read
    subst same
    have numbered := of_decide_eq_true known
    exact ⟨numbered, asPortState_plain parsed⟩
  · cases read

/-- The event on the first line of the buffer. -/
def lineEvent (client : Client) : Option Json := Json.loads (splitLine client.buffer).1

/-- The ports of a status up to the first whose state cannot be read. -/
def listed : List (Json × Except Raised Json) → List (Json × Json)
  | (port, .ok status) :: rest => (port, status) :: listed rest
  | _ => []

/-- The events that take the place of a ports status, as they stand in the buffer:
the last port comes first. -/
def pushedBack (event : Json) : List Json :=
  match portState event, asPortState event, asPortsStatus event with
  | none, .ok _, .ok (some (dpid, status)) =>
      if truthy dpid = true then
        match portsOf status with
        | .ok ports =>
            (listed ports).reverse.map fun entry => makePortState dpid entry.1 entry.2 false
        | .error _ => []
      else []
  | _, _, _ => []

def pushedLines (events : List Json) : List Char :=
  events.flatMap fun event => Json.dumps event ++ ['\n']

/-- The buffer when its first line has been taken. -/
def Client.remaining (client : Client) : List Char :=
  pushedLines (((lineEvent client).map pushedBack).getD []) ++ (splitLine client.buffer).2

/-- A line in the buffer has no state of a port and is dropped, put off or handed on;
or it is an event of a port that is to be debounced; or one that was, and that
repeats the state or changes it. -/
inductive Lined (client : Client) : Except Raised (Option Json) → Client → Prop
  | passed (outcome : Except Raised (Option Json)) :
      (∀ event, lineEvent client = some event → portState event = none) →
      (∀ event, outcome = .ok (some event) → portState event = none) →
      Lined client outcome { client with buffer := client.remaining }
  | debounced (event : Json) (state : PortState) :
      lineEvent client = some event → isDebounced event = false →
      portState event = some state →
      Lined client (.ok none)
        ((debouncePortEvent state).run { client with buffer := client.remaining }).2
  | stale (event : Json) (state : PortState) (active : Json) :
      lineEvent client = some event → isDebounced event = true →
      portState event = some state →
      client.previousState.get? state.key = some active → SameActive active state.active →
      Lined client (.ok none) { client with buffer := client.remaining }
  | marked (event : Json) (state : PortState) :
      lineEvent client = some event → isDebounced event = true →
      portState event = some state →
      (∀ active, client.previousState.get? state.key = some active →
        ¬ SameActive active state.active) →
      Lined client (.ok (some event)) { client with
        buffer := client.remaining
        previousState := client.previousState.insert state.key state.active
        marked := client.marked ++ [state] }

/-- The timers that keep running when an event of a port comes in. -/
def Client.uncancelled (client : Client) (key : Key) : List Pending :=
  match client.portTimers.get? key with
  | none => client.pending
  | some timer => client.pending.filter fun entry => entry.timer ≠ timer

/-- What becomes of an event that is to be debounced. -/
inductive Debounced (client : Client) (state : PortState) : Client → Prop
  | immediate : client.portDebounceSec = 0 →
      Debounced client state { client with
        heard := client.heard ++ [state]
        debouncedQ := client.debouncedQ ++ [state.event]
        handled := client.handled ++ [⟨state, client.heard.length, client.heard.length + 1⟩] }
  | up : client.portDebounceSec ≠ 0 → truthy state.active = true →
      Debounced client state { client with
        heard := client.heard ++ [state]
        pending := client.uncancelled state.key
        debouncedQ := client.debouncedQ ++ [state.event]
        handled := client.handled ++ [⟨state, client.heard.length, client.heard.length + 1⟩] }
  | down : client.portDebounceSec ≠ 0 → truthy state.active = false →
      Debounced client state { client with
        heard := client.heard ++ [state]
        pending := client.uncancelled state.key ++
          [⟨client.nextTimer, state, client.heard.length⟩]
        portTimers := client.portTimers.insert state.key client.nextTimer
        nextTimer := client.nextTimer + 1 }

theorem cancel_run (client : Client) (key : Key) :
    (whenSome (client.portTimers.get? key) cancelTimer).run client =
      (.ok (), { client with pending := client.uncancelled key }) := by
  unfold Client.uncancelled
  cases client.portTimers.get? key with
  | none => rfl
  | some timer => rfl

theorem debouncePortEvent_debounced (state : PortState) (client : Client) :
    ∃ after, (debouncePortEvent state).run client = (.ok (), after) ∧
      Debounced client state after := by
  unfold debouncePortEvent
  rw [read_bind_run, modify_bind_run, get_bind_run]
  have length : (client.heard ++ [state]).length = client.heard.length + 1 :=
    List.length_append
  split
  · rename_i immediate
    refine ⟨_, ?_, .immediate immediate⟩
    rw [← length]
    rfl
  · rename_i delayed
    rw [bind_run_ok (cancel_run { client with heard := client.heard ++ [state] } state.key)]
    split
    · rename_i up
      refine ⟨_, ?_, .up delayed up⟩
      rw [← length]
      rfl
    · rename_i down
      exact ⟨_, rfl, .down delayed (Bool.eq_false_iff.mpr down)⟩

theorem Lined.incoming {client after : Client} {outcome : Except Raised (Option Json)}
    (lined : Lined client outcome after) : after.incoming = client.incoming := by
  cases lined with
  | passed => rfl
  | debounced event state =>
      obtain ⟨after, ran, debounced⟩ :=
        debouncePortEvent_debounced state { client with buffer := client.remaining }
      rw [ran]
      cases debounced with
      | immediate => rfl
      | up => rfl
      | down => rfl
  | stale => rfl
  | marked => rfl

theorem pushedLines_append (first second : List Json) :
    pushedLines (first ++ second) = pushedLines first ++ pushedLines second :=
  List.flatMap_append

theorem replacePorts_pushed (dpid : Json) (ports : List (Json × Except Raised Json))
    (client : Client) :
    ((replacePorts dpid ports).run client).2 = { client with
      buffer := pushedLines ((listed ports).reverse.map fun entry =>
        makePortState dpid entry.1 entry.2 false) ++ client.buffer } := by
  induction ports generalizing client with
  | nil => rfl
  | cons entry ports shorter =>
      obtain ⟨port, status⟩ := entry
      cases status with
      | error raised => rfl
      | ok status =>
          rw [replacePorts, bind_run_ok (ofExcept_run _ _)]
          refine (shorter { client with
            buffer := Json.dumps (makePortState dpid port status false) ++
              '\n' :: client.buffer }).trans ?_
          rw [listed, List.reverse_cons, List.map_append, pushedLines_append, List.append_assoc]
          simp [pushedLines]

theorem remaining_eq {client : Client} {event : Json} (came : lineEvent client = some event) :
    client.remaining = pushedLines (pushedBack event) ++ (splitLine client.buffer).2 := by
  unfold Client.remaining
  rw [came]
  rfl

theorem pushedBack_portState {event : Json} {state : PortState}
    (read : portState event = some state) : pushedBack event = [] := by
  unfold pushedBack
  rw [read]

theorem filterPortState_lined {client : Client} {event : Json} {state : PortState}
    (came : lineEvent client = some event) (read : portState event = some state) :
    Lined client
      ((filterPortState event state).run { client with buffer := client.remaining }).1
      ((filterPortState event state).run { client with buffer := client.remaining }).2 := by
  unfold filterPortState
  split
  · rename_i raw
    obtain ⟨after, ran, _⟩ :=
      debouncePortEvent_debounced state { client with buffer := client.remaining }
    rw [bind_run_ok ran]
    have lined := Lined.debounced event state came raw read
    rw [ran] at lined
    exact lined
  · rename_i processed
    have marked : isDebounced event = true := Bool.eq_true_of_not_eq_false processed
    unfold processStateUpdate
    rw [bind_assoc, read_bind_run]
    split
    · rename_i repeated
      obtain ⟨active, found, same⟩ := Option.any_eq_true .. |>.mp repeated
      exact .stale event state active came marked read found (of_decide_eq_true same)
    · rename_i fresh
      refine .marked event state came marked read fun active found same => fresh ?_
      rw [show ({ client with buffer := client.remaining } : Client).previousState =
        client.previousState from rfl, found]
      exact decide_eq_true same

/-- A line that is not about a port leaves the rest of the buffer behind the events
that it pushes back. -/
theorem Lined.passing {client : Client} {event : Json} (came : lineEvent client = some event)
    (carried : portState event = none) {pushed : List Json} (replaced : pushedBack event = pushed)
    (outcome : Except Raised (Option Json))
    (unported : ∀ other, outcome = .ok (some other) → portState other = none) :
    Lined client outcome
      { client with buffer := pushedLines pushed ++ (splitLine client.buffer).2 } := by
  have passed : Lined client outcome { client with buffer := client.remaining } := .passed outcome
    (fun other same => by cases came.symm.trans same; exact carried) unported
  rw [remaining_eq came, replaced] at passed
  exact passed

theorem Lined.unlisted {client : Client} {event : Json} (came : lineEvent client = some event)
    (carried : portState event = none) (replaced : pushedBack event = [])
    (outcome : Except Raised (Option Json))
    (unported : ∀ other, outcome = .ok (some other) → portState other = none) :
    Lined client outcome { client with buffer := (splitLine client.buffer).2 } :=
  Lined.passing came carried replaced outcome unported

theorem replacePorts_lined {client : Client} {event dpid : Json}
    {ports : List (Json × Except Raised Json)} (came : lineEvent client = some event)
    (carried : portState event = none)
    (replaced : pushedBack event =
      (listed ports).reverse.map fun entry => makePortState dpid entry.1 entry.2 false) :
    let start := { client with buffer := (splitLine client.buffer).2 }
    let run := (do replacePorts dpid ports; pure none : Action (Option Json)).run start
    Lined client run.1 run.2 := by
  intro start run
  have pushed := replacePorts_pushed dpid ports start
  cases ran : (replacePorts dpid ports).run start with
  | mk outcome after =>
      rw [ran] at pushed
      dsimp only at pushed
      cases outcome with
      | error raised =>
          rw [show run = (.error raised, after) from bind_run_error ran, pushed]
          exact .passing came carried replaced _ fun _ wrong => by cases wrong
      | ok _ =>
          rw [show run = (.ok none, after) from bind_run_ok ran, pushed]
          exact .passing came carried replaced _ fun _ wrong => by cases wrong

theorem pushedBack_status {event dpid listing : Json} {found : Option PortState}
    (carried : portState event = none) (parsed : asPortState event = .ok found)
    (status : asPortsStatus event = .ok (some (dpid, listing))) :
    pushedBack event =
      if truthy dpid = true then
        match portsOf listing with
        | .ok ports =>
            (listed ports).reverse.map fun entry => makePortState dpid entry.1 entry.2 false
        | .error _ => []
      else [] := by
  unfold pushedBack
  rw [carried, parsed, status]

theorem filterFaucetEvent_lined {client : Client} {event : Json}
    (came : lineEvent client = some event) :
    Lined client
      ((filterFaucetEvent event).run { client with buffer := (splitLine client.buffer).2 }).1
      ((filterFaucetEvent event).run { client with buffer := (splitLine client.buffer).2 }).2 := by
  unfold filterFaucetEvent
  cases parsed : asPortState event with
  | error raised =>
      have carried : portState event = none := by
        unfold portState
        rw [parsed]
      refine .unlisted came carried ?_ _ fun _ wrong => by cases wrong
      unfold pushedBack
      rw [carried, parsed]
  | ok found =>
      have read : portState event = found.filter fun state =>
          decide (truthy state.dpid = true ∧ state.port ≠ 0) := by
        unfold portState
        rw [parsed]
      rw [bind_run_ok (ofExcept_run _ _), ← read]
      cases carried : portState event with
      | some state =>
          have lined := filterPortState_lined came carried
          rw [remaining_eq came, pushedBack_portState carried] at lined
          exact lined
      | none =>
          cases status : asPortsStatus event with
          | error raised =>
              refine .unlisted came carried ?_ _ fun _ wrong => by cases wrong
              unfold pushedBack
              rw [carried, parsed, status]
          | ok portsStatus =>
              dsimp only
              rw [bind_run_ok (ofExcept_run _ _)]
              cases known : portsStatus.filter fun found => truthy found.1 with
              | none =>
                  refine .unlisted came carried ?_ _ fun other same => by cases same; exact carried
                  cases portsStatus with
                  | none =>
                      unfold pushedBack
                      rw [carried, parsed, status]
                  | some found =>
                      rw [pushedBack_status carried parsed status]
                      exact if_neg (Option.filter_eq_none_iff.mp known found rfl)
              | some found =>
                  obtain ⟨dpid, listing⟩ := found
                  obtain ⟨rfl, present⟩ := Option.filter_eq_some_iff.mp known
                  have replaced := (pushedBack_status carried parsed status).trans (if_pos present)
                  dsimp only
                  cases ports : portsOf listing with
                  | error raised =>
                      rw [ports] at replaced
                      exact .unlisted came carried replaced _ fun _ wrong => by cases wrong
                  | ok entries =>
                      rw [ports] at replaced
                      rw [bind_run_ok (ofExcept_run _ _)]
                      exact replacePorts_lined came carried replaced

theorem Lined.unread {client : Client} (unread : lineEvent client = none)
    (outcome : Except Raised (Option Json))
    (unported : ∀ other, outcome = .ok (some other) → portState other = none) :
    Lined client outcome { client with buffer := (splitLine client.buffer).2 } := by
  have passed : Lined client outcome { client with buffer := client.remaining } := .passed outcome
    (fun event same => by cases unread.symm.trans same) unported
  unfold Client.remaining at passed
  rw [unread] at passed
  exact passed

theorem takeLine_lined (client : Client) (bound : Bool) :
    Lined client ((takeLine bound).run client).1 ((takeLine bound).run client).2 := by
  unfold takeLine
  rw [read_bind_run]
  dsimp only
  rw [modify_bind_run]
  cases came : Json.loads (splitLine client.buffer).1 with
  | some event => exact filterFaucetEvent_lined came
  | none =>
      cases bound with
      | true => exact .unread came _ fun _ wrong => by cases wrong
      | false => exact .unread came _ fun _ wrong => by cases wrong

theorem portState_truthy {event : Json} {state : PortState}
    (read : portState event = some state) : truthy event = true := by
  cases present : truthy event with
  | true => rfl
  | false =>
      have absent : asPortState event = .ok none := by
        unfold asPortState
        rw [present]
        rfl
      unfold portState at read
      rw [absent] at read
      cases read

theorem returned_finish_event (reader : Reader) (event : Json) :
    (reader.finish (.event event)).returned = reader.returned ++ [event] := by
  simp [Reader.returned, Reader.finish]

theorem returned_finish_nothing (reader : Reader) :
    (reader.finish .nothing).returned = reader.returned := by
  simp [Reader.returned, Reader.finish]

theorem returned_finish_failure (reader : Reader) (raised : Raised) :
    (reader.finish (.failure raised)).returned = reader.returned := by
  simp [Reader.returned, Reader.finish]

/-- The states of ports that were returned. -/
def Reader.reported (reader : Reader) : List PortState := reader.returned.filterMap portState

/-- A move takes no line, and data may come in; or it returns an event of the queue;
or it takes a line, which is not about a port, or is given to debouncing, or was
debounced and repeats the state or is returned; or a timer fires. -/
inductive Shift (reader : Reader) : Move → Reader → Prop
  | waited {poll : Poll} {after : Reader} (data : List Char) :
      reader.position ≠ .take →
      after.client = { reader.client with
        buffer := reader.client.buffer ++ data
        incoming := reader.client.incoming ++ data } →
      after.reported = reader.reported → Shift reader (.advance poll) after
  | served {poll : Poll} {after : Reader} (event : Json) (rest : List Json) :
      reader.position = .serve → reader.client.debouncedQ = event :: rest →
      after.client = { reader.client with debouncedQ := rest } →
      after.returned = reader.returned ++ [event] → Shift reader (.advance poll) after
  | passed {poll : Poll} {after : Reader} :
      reader.position = .take →
      (∀ event, lineEvent reader.client = some event → portState event = none) →
      after.client = { reader.client with buffer := reader.client.remaining } →
      after.reported = reader.reported → Shift reader (.advance poll) after
  | debounced {poll : Poll} {after : Reader} (event : Json) (state : PortState)
      (client : Client) :
      reader.position = .take → lineEvent reader.client = some event →
      isDebounced event = false → portState event = some state →
      Debounced { reader.client with buffer := reader.client.remaining } state client →
      after.client = client → after.reported = reader.reported →
      Shift reader (.advance poll) after
  | stale {poll : Poll} {after : Reader} (event : Json) (state : PortState) (active : Json) :
      reader.position = .take → lineEvent reader.client = some event →
      isDebounced event = true → portState event = some state →
      reader.client.previousState.get? state.key = some active →
      SameActive active state.active →
      after.client = { reader.client with buffer := reader.client.remaining } →
      after.reported = reader.reported → Shift reader (.advance poll) after
  | marked {poll : Poll} {after : Reader} (event : Json) (state : PortState) :
      reader.position = .take → lineEvent reader.client = some event →
      isDebounced event = true → portState event = some state →
      (∀ active, reader.client.previousState.get? state.key = some active →
        ¬ SameActive active state.active) →
      after.client = { reader.client with
        buffer := reader.client.remaining
        previousState := reader.client.previousState.insert state.key state.active
        marked := reader.client.marked ++ [state] } →
      after.reported = reader.reported ++ [state] → Shift reader (.advance poll) after
  | idle {timer : Nat} :
      reader.client.pending.find? (fun entry => entry.timer = timer) = none →
      Shift reader (.expire timer) reader
  | expired {timer : Nat} {after : Reader} (entry : Pending) :
      reader.client.pending.find? (fun entry => entry.timer = timer) = some entry →
      after.client = { reader.client with
        pending := reader.client.pending.filter fun other => other.timer ≠ timer
        debouncedQ := reader.client.debouncedQ ++ [entry.state.event]
        handled := reader.client.handled ++
          [⟨entry.state, entry.index, reader.client.heard.length⟩] } →
      after.position = reader.position → after.reported = reader.reported →
      Shift reader (.expire timer) after

/-- How the loop comes to look at the queue and to take a line. -/
structure Onward (reader after : Reader) : Prop where
  taking : after.position = .take →
    after.client = reader.client ∧ reader.position = .serve ∧ reader.client.debouncedQ = []
  serving : after.position = .serve →
    after.client = reader.client ∧
      (reader.client.debouncedQ ≠ [] ∨ '\n' ∈ reader.client.buffer)

theorem reported_finish_event (reader : Reader) (event : Json) :
    (reader.finish (.event event)).reported = reader.reported ++ (portState event).toList := by
  unfold Reader.reported
  rw [returned_finish_event, List.filterMap_append, List.filterMap_cons, List.filterMap_nil]
  cases portState event with
  | none => rfl
  | some state => rfl

theorem take_shift {reader : Reader} (placed : reader.position = .take) (poll : Poll) :
    Shift reader (.advance poll) reader.take := by
  have lined := takeLine_lined reader.client reader.bound
  unfold Reader.take
  generalize (takeLine reader.bound).run reader.client = ran at lined
  obtain ⟨outcome, after⟩ := ran
  cases lined with
  | passed outcome carried unported =>
      match outcome with
      | .error raised =>
          exact .passed placed carried rfl
            (congrArg (List.filterMap portState) (returned_finish_failure _ raised))
      | .ok none => exact .passed placed carried rfl rfl
      | .ok (some event) =>
          dsimp only
          split
          · refine .passed placed carried rfl ?_
            rw [reported_finish_event, unported event rfl]
            exact List.append_nil _
          · exact .passed placed carried rfl rfl
  | debounced event state came raw read =>
      obtain ⟨after, ran, debounced⟩ := debouncePortEvent_debounced state
        { reader.client with buffer := reader.client.remaining }
      rw [ran]
      exact .debounced event state after placed came raw read debounced rfl rfl
  | stale event state active came processed read found same =>
      exact .stale event state active placed came processed read found same rfl rfl
  | marked event state came processed read fresh =>
      dsimp only
      rw [if_pos (portState_truthy read)]
      refine .marked event state placed came processed read fresh rfl ?_
      rw [reported_finish_event, read]
      rfl

theorem receive_shift {reader : Reader} (placed : reader.position ≠ .take) (poll : Poll) :
    Shift reader (.advance poll) (reader.receive poll) := by
  have unchanged : reader.client = { reader.client with
      buffer := reader.client.buffer ++ [], incoming := reader.client.incoming ++ [] } := by
    rw [List.append_nil, List.append_nil]
  have failing : ∀ raised, Shift reader (.advance poll) (reader.finish (.failure raised)) :=
    fun raised => .waited [] placed unchanged
      (congrArg (List.filterMap portState) (returned_finish_failure reader raised))
  cases poll with
  | silent =>
      exact .waited [] placed unchanged
        (congrArg (List.filterMap portState) (returned_finish_nothing reader))
  | received chunk =>
      unfold Reader.receive
      dsimp only
      split
      · exact failing .unicodeDecodeError
      · exact failing .disconnected
      · exact .waited _ placed rfl rfl

theorem step_shift (reader : Reader) (move : Move) : Shift reader move (move.step reader) := by
  have unchanged : reader.client = { reader.client with
      buffer := reader.client.buffer ++ [], incoming := reader.client.incoming ++ [] } := by
    rw [List.append_nil, List.append_nil]
  cases move with
  | expire timer =>
      dsimp only [Move.step]
      unfold Reader.expire
      split
      · rename_i none
        exact .idle none
      · rename_i entry found
        exact .expired entry found rfl rfl rfl
  | advance poll =>
      dsimp only [Move.step]
      unfold Reader.advance
      split
      · rename_i placed
        exact .waited [] (by rw [placed]; exact nofun) unchanged rfl
      · rename_i placed
        have elsewhere : reader.position ≠ .take := by rw [placed]; exact nofun
        split
        · exact .waited [] elsewhere unchanged rfl
        · exact receive_shift elsewhere poll
      · rename_i placed
        split
        · exact .waited [] (by rw [placed]; exact nofun) unchanged rfl
        · rename_i event rest queue
          exact .served event rest placed queue rfl (returned_finish_event _ event)
      · rename_i placed
        exact take_shift placed poll

theorem take_position (reader : Reader) : reader.take.position = .check := by
  unfold Reader.take
  split
  · rfl
  · rfl
  · split
    · rfl
    · rfl

theorem receive_position {reader : Reader} (placed : reader.position = .await) (poll : Poll) :
    (reader.receive poll).position = .check ∨ (reader.receive poll).position = .await := by
  unfold Reader.receive
  split
  · exact .inl rfl
  · split
    · exact .inl rfl
    · exact .inl rfl
    · exact .inr placed

theorem Onward.elsewhere {reader after : Reader}
    (position : after.position = .check ∨ after.position = .await) : Onward reader after := by
  constructor
  · intro wrong
    rw [wrong] at position
    rcases position with wrong | wrong <;> cases wrong
  · intro wrong
    rw [wrong] at position
    rcases position with wrong | wrong <;> cases wrong

theorem advance_onward (reader : Reader) (poll : Poll) :
    Onward reader (reader.advance poll) := by
  unfold Reader.advance
  split
  · constructor
    · intro wrong
      dsimp only at wrong
      split at wrong
      · cases wrong
      · cases wrong
    · intro serving
      dsimp only at serving
      split at serving
      · cases serving
      · rename_i occupied
        exact ⟨rfl, .inl occupied⟩
  · rename_i placed
    split
    · rename_i complete
      exact { taking := (nomatch ·), serving := fun _ => ⟨rfl, .inr complete⟩ }
    · exact .elsewhere (receive_position placed poll)
  · rename_i placed
    split
    · rename_i empty
      exact { taking := fun _ => ⟨rfl, placed, empty⟩, serving := (nomatch ·) }
    · exact .elsewhere (.inl rfl)
  · exact .elsewhere (.inl (take_position reader))

theorem take_incoming (reader : Reader) :
    reader.take.client.incoming = reader.client.incoming := by
  have lined := takeLine_lined reader.client reader.bound
  unfold Reader.take
  generalize (takeLine reader.bound).run reader.client = ran at lined
  obtain ⟨outcome, after⟩ := ran
  match outcome with
  | .error raised => exact lined.incoming
  | .ok none => exact lined.incoming
  | .ok (some event) =>
      dsimp only
      split
      · exact lined.incoming
      · exact lined.incoming

end Daq.Faucet
