import Daq.Lib.Bytes
import Daq.Lib.Dict
import Daq.Lib.Exec
import Daq.Lib.Json
import Mathlib.Data.List.Infix

namespace Daq.Faucet

/-! The client of the faucet event socket. -/

inductive Raised
  | disconnected
  | unicodeDecodeError
  | unboundLocalError
  | typeError
  | keyError
  | valueError
  | indexError
  | overflowError
deriving DecidableEq, Repr

/-! What Python makes of the values. -/

def truthy : Json → Bool
  | .null => false
  | .bool value => value
  | .int value => value ≠ 0
  | .float mantissa _ => mantissa ≠ 0
  | .nonFinite _ => true
  | .str value => value ≠ []
  | .array items => items ≠ .nil
  | .object members => members ≠ .nil

def Items.toList : Items → List Json
  | .nil => []
  | .cons head tail => head :: Items.toList tail

/-- `key in event`. -/
def contains (key : Str) : Json → Except Raised Bool
  | .object members => .ok (members.get? key).isSome
  | .array items => .ok (decide (Json.str key ∈ Items.toList items))
  | .str value => .ok (decide (key <:+: value))
  | _ => .error .typeError

/-- `event[key]`. -/
def subscript (event : Json) (key : Str) : Except Raised Json :=
  match event with
  | .object members =>
      match members.get? key with
      | none => .error .keyError
      | some value => .ok value
  | _ => .error .typeError

def isDigit (point : Nat) : Bool := 48 ≤ point ∧ point ≤ 57

def isSpace (point : Nat) : Bool := 9 ≤ point ∧ point ≤ 13 ∨ 28 ≤ point ∧ point ≤ 32

def readSign : Str → Bool × Str
  | 45 :: rest => (true, rest)
  | 43 :: rest => (false, rest)
  | rest => (false, rest)

/-- `int(text)`: single underscores may stand between digits. -/
def intOfStr (text : Str) : Except Raised Int :=
  let stripped := ((text.dropWhile isSpace).reverse.dropWhile isSpace).reverse
  let (negative, digits) := readSign stripped
  let groups := digits.splitOn 95
  if groups.all fun group => group ≠ [] ∧ group.all isDigit then
    let magnitude : Int := groups.flatten.foldl (fun value point => value * 10 + (point - 48)) 0
    .ok (if negative then -magnitude else magnitude)
  else .error .valueError

/-- `int(value)`.  A float is the decimal that was read, not the double nearest
to it. -/
def toInt : Json → Except Raised Int
  | .bool value => .ok (if value then 1 else 0)
  | .int value => .ok value
  | .float mantissa exponent =>
      .ok (if exponent < 0 then mantissa.tdiv (10 ^ exponent.natAbs)
        else mantissa * 10 ^ exponent.natAbs)
  | .nonFinite .nan => .error .valueError
  | .nonFinite _ => .error .overflowError
  | .str value => intOfStr value
  | _ => .error .typeError

def text : Json → List Char
  | .null => ['N', 'o', 'n', 'e']
  | .bool true => ['T', 'r', 'u', 'e']
  | .bool false => ['F', 'a', 'l', 's', 'e']
  | .str value => value.map Char.ofNat
  | other => Json.dumps other

abbrev Key := List Char

def stateKey (dpid : Json) (port : Int) : Key := text dpid ++ '-' :: Json.writeInt port

def isZero : Json → Bool
  | .bool value => !value
  | .int value => value = 0
  | .float mantissa _ => mantissa = 0
  | _ => false

/-- Equality of active values; the numbers that are zero are all equal. -/
def SameActive (first second : Json) : Prop :=
  first = second ∨ isZero first = true ∧ isZero second = true

instance (first second : Json) : Decidable (SameActive first second) :=
  inferInstanceAs (Decidable (_ ∨ _))

/-! Events. -/

def dpIdKey : Str := .ofChars ['d', 'p', '_', 'i', 'd']

def portChangeKey : Str :=
  .ofChars ['P', 'O', 'R', 'T', '_', 'C', 'H', 'A', 'N', 'G', 'E']

def portsStatusKey : Str :=
  .ofChars ['P', 'O', 'R', 'T', 'S', '_', 'S', 'T', 'A', 'T', 'U', 'S']

def debouncedKey : Str := .ofChars ['d', 'e', 'b', 'o', 'u', 'n', 'c', 'e', 'd']

def portNoKey : Str := .ofChars ['p', 'o', 'r', 't', '_', 'n', 'o']

def statusKey : Str := .ofChars ['s', 't', 'a', 't', 'u', 's']

def reasonKey : Str := .ofChars ['r', 'e', 'a', 's', 'o', 'n']

def modify : Str := .ofChars ['M', 'O', 'D', 'I', 'F', 'Y']

def delete : Str := .ofChars ['D', 'E', 'L', 'E', 'T', 'E']

def makePortState (dpid port status : Json) (debounced : Bool) : Json :=
  .object
    (.cons dpIdKey dpid
      (.cons portChangeKey
        (.object
          (.cons portNoKey port
            (.cons statusKey status
              (.cons reasonKey (.str modify) .nil))))
        (.cons debouncedKey (.bool debounced) .nil)))

structure PortState where
  dpid : Json
  port : Int
  active : Json
deriving DecidableEq

def PortState.key (state : PortState) : Key := stateKey state.dpid state.port

def PortState.event (state : PortState) : Json :=
  makePortState state.dpid (.int state.port) state.active true

/-- Convert event to a port state info, if applicable. -/
def asPortState (event : Json) : Except Raised (Option PortState) := do
  if truthy event = false then return none
  let applicable ← contains portChangeKey event
  if applicable = false then return none
  let dpid ← subscript event dpIdKey
  let change ← subscript event portChangeKey
  let portNo ← subscript change portNoKey
  let port ← toInt portNo
  let reason ← subscript change reasonKey
  let status ← subscript change statusKey
  let active := if truthy status then .bool (decide (reason ≠ .str delete)) else status
  return some { dpid, port, active }

/-- Convert the event to port status info, if applicable. -/
def asPortsStatus (event : Json) : Except Raised (Option (Json × Json)) := do
  if truthy event = false then return none
  let applicable ← contains portsStatusKey event
  if applicable = false then return none
  let dpid ← subscript event dpIdKey
  let status ← subscript event portsStatusKey
  return some (dpid, status)

def listIndex (items : List Json) (index : Int) : Except Raised Json :=
  let position := if index < 0 then index + items.length else index
  if position < 0 then .error .indexError
  else match items[position.toNat]? with
    | none => .error .indexError
    | some value => .ok value

/-- The ports of a status with their states, as `for port in status` and
`status[port]` give them. -/
def portsOf (status : Json) : Except Raised (List (Json × Except Raised Json)) :=
  match status with
  | .object members => .ok (members.toList.map fun entry => (.str entry.1, .ok entry.2))
  | .array items => .ok ((Items.toList items).map fun item => (item,
      match item with
      | .int index => listIndex (Items.toList items) index
      | .bool index => listIndex (Items.toList items) (if index then 1 else 0)
      | _ => .error .typeError))
  | .str value => .ok (value.map fun point => (.str [point], .error .typeError))
  | _ => .error .typeError

/-! The client. -/

/-- A debounce timer that was started and neither fired nor was cancelled. -/
structure Pending where
  timer : Nat
  state : PortState
  /-- History only: the place of the event among all that were heard. -/
  index : Nat
deriving DecidableEq

/-- An event that came out of debouncing, with its place among the events that
were heard and their number at that time. -/
structure Handled where
  state : PortState
  index : Nat
  heard : Nat
deriving DecidableEq

/-- The last four fields are history only: what was received, the port states
given to `_debounce_port_event` and to `_handle_debounce`, and those that came
in marked as debounced and were returned. -/
structure Client where
  buffer : List Char
  debouncedQ : List Json
  previousState : Dict Key Json
  portDebounceSec : Int
  portTimers : Dict Key Nat
  pending : List Pending
  nextTimer : Nat
  incoming : List Char
  heard : List PortState
  handled : List Handled
  marked : List PortState

def Client.connected (portDebounceSec : Int) : Client where
  buffer := []
  debouncedQ := []
  previousState := .empty
  portDebounceSec
  portTimers := .empty
  pending := []
  nextTimer := 0
  incoming := []
  heard := []
  handled := []
  marked := []

abbrev Action (α : Type) := Exec Client Raised α

def handleDebounce (state : PortState) (index : Nat) : Action Unit :=
  Exec.modify fun client => { client with
    debouncedQ := client.debouncedQ ++ [state.event]
    handled := client.handled ++ [⟨state, index, client.heard.length⟩] }

def cancelTimer (timer : Nat) : Action Unit :=
  Exec.modify fun client =>
    { client with pending := client.pending.filter fun entry => entry.timer ≠ timer }

def startTimer (state : PortState) (index : Nat) : Action Unit :=
  Exec.modify fun client => { client with
    pending := client.pending ++ [⟨client.nextTimer, state, index⟩]
    portTimers := client.portTimers.insert state.key client.nextTimer
    nextTimer := client.nextTimer + 1 }

def debouncePortEvent (state : PortState) : Action Unit := do
  let index ← Exec.read fun client => client.heard.length
  Exec.modify fun client => { client with heard := client.heard ++ [state] }
  let client ← Exec.get
  if client.portDebounceSec = 0 then handleDebounce state index
  else do
    Exec.whenSome (client.portTimers.get? state.key) cancelTimer
    if truthy state.active then handleDebounce state index
    else startTimer state index

/-- Whether the state differs from the last one that was processed. -/
def processStateUpdate (state : PortState) : Action Bool := do
  let previous ← Exec.read fun client => client.previousState.get? state.key
  if (previous.any fun active => decide (SameActive active state.active)) = true then pure false
  else do
    Exec.modify fun client => { client with
      previousState := client.previousState.insert state.key state.active
      marked := client.marked ++ [state] }
    pure true

def prependEvent (event : Json) : Action Unit :=
  Exec.modify fun client => { client with buffer := Json.dumps event ++ '\n' :: client.buffer }

/-- `event.get('debounced')`. -/
def isDebounced (event : Json) : Bool :=
  match event with
  | .object members => ((members.get? debouncedKey).map truthy).getD false
  | _ => false

def filterPortState (event : Json) (state : PortState) : Action (Option Json) := do
  if isDebounced event = false then do
    debouncePortEvent state
    pure none
  else do
    let changed ← processStateUpdate state
    pure (if changed then some event else none)

/-- Prepend events so they functionally replace the current one in the queue. -/
def replacePorts (dpid : Json) : List (Json × Except Raised Json) → Action Unit
  | [] => pure ()
  | (port, status) :: rest => do
      let status ← .ofExcept status
      prependEvent (makePortState dpid port status false)
      replacePorts dpid rest

def filterFaucetEvent (event : Json) : Action (Option Json) := do
  let portState ← .ofExcept (asPortState event)
  match portState.filter fun state => decide (truthy state.dpid = true ∧ state.port ≠ 0) with
  | some state => filterPortState event state
  | none => do
      let portsStatus ← .ofExcept (asPortsStatus event)
      match portsStatus.filter fun found => truthy found.1 with
      | some (dpid, status) => do
          let ports ← .ofExcept (portsOf status)
          replacePorts dpid ports
          pure none
      | none => pure (some event)

def splitLine (text : List Char) : List Char × List Char :=
  (text.takeWhile (· ≠ '\n'), (text.dropWhile (· ≠ '\n')).tail)

/-- Take the first line off the buffer and filter it.  A line that cannot be
parsed leaves the previous event of this call, which is none, if there was one. -/
def takeLine (bound : Bool) : Action (Option Json) := do
  let (line, remainder) ← Exec.read fun client => splitLine client.buffer
  Exec.modify fun client => { client with buffer := remainder }
  match Json.loads line with
  | some event => filterFaucetEvent event
  | none => if bound then pure none else Exec.raise .unboundLocalError

/-! Calls of `next_event`, step by step: timers may fire in between. -/

inductive Outcome
  | event (event : Json)
  | nothing
  | failure (raised : Raised)
deriving DecidableEq

/-- Where the loop of `next_event` is: about to look at the queue, waiting for
data in `has_event`, about to serve the queue, about to take a line. -/
inductive Position
  | check
  | await
  | serve
  | take
deriving DecidableEq

/-- The thread that calls `next_event` over and over; `bound` tells whether the
call has parsed a line already. -/
structure Reader where
  client : Client
  position : Position
  bound : Bool
  outcomes : List Outcome

/-- What `select` and `recv` have to say. -/
inductive Poll
  | silent
  | received (chunk : Bytes)
deriving DecidableEq

def decode (chunk : Bytes) : Option (List Char) :=
  if chunk.all fun byte => byte < 128 then some (chunk.map fun byte => Char.ofNat byte.toNat)
  else (String.fromUTF8? ⟨chunk.toArray⟩).map String.toList

namespace Reader

def connected (portDebounceSec : Int) : Reader where
  client := .connected portDebounceSec
  position := .check
  bound := false
  outcomes := []

/-- The call ends, and the next one begins. -/
def finish (reader : Reader) (outcome : Outcome) : Reader :=
  { reader with position := .check, bound := false, outcomes := reader.outcomes ++ [outcome] }

def receive (reader : Reader) : Poll → Reader
  | .silent => reader.finish .nothing
  | .received chunk =>
      match decode chunk with
      | none => reader.finish (.failure .unicodeDecodeError)
      | some [] => reader.finish (.failure .disconnected)
      | some data =>
          { reader with client := { reader.client with
              buffer := reader.client.buffer ++ data
              incoming := reader.client.incoming ++ data } }

def take (reader : Reader) : Reader :=
  match (takeLine reader.bound).run reader.client with
  | (.error raised, client) => { reader with client }.finish (.failure raised)
  | (.ok none, client) => { reader with client, position := .check, bound := true }
  | (.ok (some event), client) =>
      if truthy event then { reader with client }.finish (.event event)
      else { reader with client, position := .check, bound := true }

/-- One step of the loop; the poll is only asked for where data is needed. -/
def advance (poll : Poll) (reader : Reader) : Reader :=
  match reader.position with
  | .check =>
      { reader with position := if reader.client.debouncedQ = [] then .await else .serve }
  | .await =>
      if '\n' ∈ reader.client.buffer then { reader with position := .serve }
      else reader.receive poll
  | .serve =>
      match reader.client.debouncedQ with
      | [] => { reader with position := .take }
      | event :: rest =>
          { reader with client := { reader.client with debouncedQ := rest } }.finish (.event event)
  | .take => reader.take

/-- A timer fires, unless it was cancelled before. -/
def expire (timer : Nat) (reader : Reader) : Reader :=
  match reader.client.pending.find? fun entry => entry.timer = timer with
  | none => reader
  | some entry =>
      { reader with client := ((handleDebounce entry.state entry.index).run
          { reader.client with
            pending := reader.client.pending.filter fun other => other.timer ≠ timer }).2 }

def returned (reader : Reader) : List Json :=
  reader.outcomes.filterMap fun | .event event => some event | _ => none

end Reader

inductive Move
  | advance (poll : Poll)
  | expire (timer : Nat)
deriving DecidableEq

def Move.step : Move → Reader → Reader
  | .advance poll, reader => reader.advance poll
  | .expire timer, reader => reader.expire timer

end Daq.Faucet
