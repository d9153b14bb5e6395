import Daq.Usi.Table
import Mathlib.Logic.Function.Basic

namespace Daq.Usi

/-! The controller of a Cisco 9300 after login.  Every request has a thread of
its own; the gather thread reads what the switch answers, one answer for each
line that was written, in order. -/

inductive Kind
  | getPower
  | getInterface
  | connect
  | disconnect
deriving DecidableEq

structure Request where
  kind : Kind
  devicePort : Int

/-- What the handler of a request is given.  The fields that the builders read
off the raw output and the map, without raising, are left out. -/
inductive Message
  | power (rawOutput : Text)
  | interface (interfaceMap : List (String × Text)) (rawOutput : Text)
  | action (success : Bool)
deriving DecidableEq

/-- A line that is written: a command of a request, or the empty line. -/
inductive Sent
  | command (request : Nat) (text : String)
  | newline
deriving DecidableEq

def Sent.sender : Sent → Option Nat
  | .command request _ => some request
  | .newline => none

/-- A call of a request's handler; `answered` is history only, the line that
the switch answered. -/
structure Call where
  request : Nat
  answered : Sent
  message : Message
deriving DecidableEq

inductive Thread
  | waiting
  | observed
  | issued
deriving DecidableEq

/-- What the gather thread does next. -/
inductive Gather
  | polling
  | newline
  | delivering (request : Nat) (answered : Sent) (data : Text)
deriving DecidableEq

/-- `responseHandler` is the request whose closure it is, and `commands` the
queue that the closure of `managePort` keeps; `written` and `calls` are history
only. -/
structure Controller where
  commandPending : Bool := false
  responseHandler : Option Nat := none
  commands : Nat → List String := fun _ => []
  threads : Nat → Thread := fun _ => .waiting
  gather : Gather := .polling
  connected : Bool := true
  unanswered : List Sent := []
  written : List Sent := []
  calls : List Call := []

def showIfaceStatusCommand (interfacePort : Int) : String :=
  s!"show interface gigabitethernet1/0/{interfacePort} status"

def showIfacePowerStatusCommand (interfacePort : Int) : String :=
  s!"show power inline gigabitethernet1/0/{interfacePort} detail"

def portManagementCommand (interfacePort : Int) (enabled : Bool) : List String :=
  ["configure terminal",
    s!"interface gigabitethernet1/0/{interfacePort}",
    (if enabled then "no " else "") ++ "shutdown",
    "end"]

def interfaceExpected : List String :=
  ["interface", "name", "status", "vlan", "duplex", "speed", "type"]

def showInterfaceExpected : List Text :=
  ["Port", "Name", "Status", "Vlan", "Duplex", "Speed", "Type"].map String.toList

/-- `containsPrompt` says of a line whether the pattern of the prompt is found
in it. -/
def processInterfaceStatus (containsPrompt : Text → Bool) (response : Text) :
    Option (List (String × Text)) :=
  let filtered := (splitLines response).filter fun line =>
    !containsPrompt line && !contains line "show interface".toList && 0 < line.length
  mapSimpleTable (['\n'].intercalate filtered) showInterfaceExpected interfaceExpected

namespace Request

def commands (request : Request) : List String :=
  match request.kind with
  | .getPower => [showIfacePowerStatusCommand request.devicePort]
  | .getInterface => [showIfaceStatusCommand request.devicePort]
  | .connect => portManagementCommand request.devicePort true
  | .disconnect => portManagementCommand request.devicePort false

/-- What is made of an answer for the handler, unless that raises. -/
def message (containsPrompt : Text → Bool) (request : Request) (data : Text) : Option Message :=
  match request.kind with
  | .getPower => some (.power data)
  | .getInterface =>
      (processInterfaceStatus containsPrompt data).map fun interfaceMap =>
        .interface interfaceMap data
  | .connect | .disconnect => some (.action true)

theorem commands_ne_nil (request : Request) : request.commands ≠ [] := by
  unfold commands
  cases request.kind <;> exact List.cons_ne_nil _ _

end Request

namespace Controller

/-- `telnetClientSocket.writeData` -/
def writeData (sent : Sent) (controller : Controller) : Controller :=
  { controller with
    unanswered := controller.unanswered ++ [sent]
    written := controller.written ++ [sent] }

/-- `commands.poll() + "\n"`, where an empty queue gives `null`. -/
def writeNext (request : Nat) (queue : List String) (controller : Controller) : Controller :=
  writeData (.command request (queue.headD "null"))
    { controller with commands := Function.update controller.commands request queue.tail }

/-- What the methods do while they hold the lock. -/
def install (request : Nat) (commands : List String) (controller : Controller) : Controller :=
  writeNext request commands
    { controller with commandPending := true, responseHandler := some request }

def getPower (request : Nat) (devicePort : Int) : Controller → Controller :=
  install request [showIfacePowerStatusCommand devicePort]

def getInterface (request : Nat) (devicePort : Int) : Controller → Controller :=
  install request [showIfaceStatusCommand devicePort]

def managePort (request : Nat) (devicePort : Int) (enabled : Bool) : Controller → Controller :=
  install request (portManagementCommand devicePort enabled)

def connect (request : Nat) (devicePort : Int) : Controller → Controller :=
  managePort request devicePort true

def disconnect (request : Nat) (devicePort : Int) : Controller → Controller :=
  managePort request devicePort false

def issue (request : Nat) (asked : Request) : Controller → Controller :=
  match asked.kind with
  | .getPower => getPower request asked.devicePort
  | .getInterface => getInterface request asked.devicePort
  | .connect => connect request asked.devicePort
  | .disconnect => disconnect request asked.devicePort

def disposeConnection (controller : Controller) : Controller :=
  { controller with connected := false, gather := .polling }

def complete (request : Nat) (answered : Sent) (data : Text) (controller : Controller) :
    Controller :=
  { controller with
    commandPending := false
    gather := .delivering request answered data }

/-- The closure that a request has installed. -/
def handle (asked : Request) (request : Nat) (answered : Sent) (data : Text)
    (controller : Controller) : Controller :=
  match asked.kind with
  | .getPower | .getInterface => controller.complete request answered data
  | .connect | .disconnect =>
      match controller.commands request with
      | [] => controller.complete request answered data
      | queue => controller.writeNext request queue

section Steps

variable (containsPrompt : Text → Bool) (requests : Nat → Request)

/-- A missing handler raises, and whatever raises here ends the connection. -/
def parseData (answered : Sent) (data : Text) (controller : Controller) : Controller :=
  if controller.commandPending then
    match controller.responseHandler with
    | none => controller.disposeConnection
    | some request => controller.handle (requests request) request answered data
  else controller

def receiveData (data : Text) (controller : Controller) : Controller :=
  match controller.unanswered with
  | [] => controller
  | answered :: unanswered =>
      parseData requests answered (trim data) { controller with unanswered }

/-- The handler is called with what is made of the answer, and may raise. -/
def deliver (raises : Bool) (controller : Controller) : Controller :=
  match controller.gather with
  | .delivering request answered data =>
      match (requests request).message containsPrompt data with
      | none => controller.disposeConnection
      | some message =>
          let called := { controller with
            calls := controller.calls ++ [⟨request, answered, message⟩], gather := .polling }
          if raises then called.disposeConnection else called
  | _ => controller

/-- The end of a connect or disconnect is passed on within the lock. -/
def Locked (controller : Controller) : Prop :=
  match controller.gather with
  | .delivering request _ _ =>
      (requests request).kind = .connect ∨ (requests request).kind = .disconnect
  | _ => False

instance (controller : Controller) : Decidable (Locked requests controller) := by
  unfold Locked
  cases controller.gather <;> infer_instance

end Steps

end Controller

inductive Move
  | observe (request : Nat)
  | install (request : Nat)
  | receive (data : Text)
  | deliver (raises : Bool)
  | notice
  | newline

namespace Move

open Controller

/-- A move whose turn it is not does nothing. -/
def step (containsPrompt : Text → Bool) (requests : Nat → Request) :
    Move → Controller → Controller
  | observe request, controller =>
      if controller.threads request = .waiting ∧ controller.commandPending = false then
        { controller with threads := Function.update controller.threads request .observed }
      else controller
  | install request, controller =>
      if controller.threads request = .observed ∧ ¬ controller.Locked requests then
        issue request (requests request)
          { controller with threads := Function.update controller.threads request .issued }
      else controller
  | receive data, controller =>
      if controller.gather = .polling ∧ controller.connected = true then
        controller.receiveData requests data
      else controller
  | deliver raises, controller => controller.deliver containsPrompt requests raises
  | notice, controller =>
      if controller.gather = .polling ∧ controller.connected = true ∧
          controller.commandPending = false then
        { controller with gather := .newline }
      else controller
  | newline, controller =>
      if controller.gather = .newline then
        writeData .newline { controller with gather := .polling }
      else controller

end Move

end Daq.Usi
