import Daq.Dot1x.Radius
import Daq.Lib.Exec

namespace Daq.Dot1x

/-! The authenticator: one state machine for each supplicant, driven by the EAP
thread, the RADIUS threads and the timer.  A loop iteration of a thread, from
the message it received to its next check of the shutdown flag, is one step. -/

/-- The configuration of an authenticator, with the defaults of its class. -/
structure Setup where
  hashes : Hashes
  radiusSecret : Bytes
  moduleId : Bytes
  eapAddress : Address
  idleTime : Nat := 9
  retryCount : Nat := 3
  eapolIdleTime : Nat := 180

inductive AuthState where
  | start | supplicant | radius | fail | success
  deriving DecidableEq, Repr

structure RadiusPacketInfo where
  payload : EapMessage
  srcMac : Address
  identity : Option Bytes
  state : Option Bytes
  portId : Nat
  deriving DecidableEq, Repr

/-- The retry function with its arguments. -/
inductive Retry where
  | eapSend (message : Option EapMessage)
  | radiusSend (info : RadiusPacketInfo)
  deriving DecidableEq, Repr

structure AuthStateMachine where
  srcMac : Address
  state : AuthState
  identity : Option Bytes
  authenticationMac : Option Address
  radiusState : Option Bytes
  currentTimeout : Option Nat
  retry : Retry
  currentRetries : Nat
  deriving DecidableEq, Repr

/-- What became of the thread that runs a loop. -/
inductive Thread where
  | serving
  | ended
  | failed (raised : Raised)
  deriving DecidableEq, Repr

/-- A request as `_encode_radius_response` registered it. -/
structure Request where
  packetId : UInt8
  srcMac : Address
  authenticator : Bytes
  deriving DecidableEq, Repr

/-- The authenticator with its two modules.  `requests` and `transmitted` are
histories that no function reads. -/
structure Authenticator where
  stateMachines : Dict Address AuthStateMachine
  results : Dict Address Bool
  currentTimeout : Nat
  timerRunning : Bool
  authenticatorMac : Option Address
  eapQueue : List (Option Bytes)
  eapShutDown : Bool
  radiusQueue : List (Option RadiusPacketInfo)
  nextRadiusId : UInt8
  packetIdToRequestAuthenticator : Dict UInt8 Bytes
  packetIdToMac : Dict UInt8 (Address × Nat)
  radiusShutDown : Bool
  radiusSocketOpen : Bool
  eapReceiver : Thread
  radiusReceiver : Thread
  radiusSender : Thread
  requests : List Request
  transmitted : List Bytes

/-- An authenticator whose threads have just started. -/
def Authenticator.initial (setup : Setup) (now : Nat) : Authenticator where
  stateMachines := Dict.empty
  results := Dict.empty
  currentTimeout := now + setup.eapolIdleTime
  timerRunning := true
  authenticatorMac := none
  eapQueue := []
  eapShutDown := false
  radiusQueue := []
  nextRadiusId := 0
  packetIdToRequestAuthenticator := Dict.empty
  packetIdToMac := Dict.empty
  radiusShutDown := false
  radiusSocketOpen := true
  eapReceiver := .serving
  radiusReceiver := .serving
  radiusSender := .serving
  requests := []
  transmitted := []

abbrev Handler (α : Type) := Exec Authenticator Raised α

/-! The modules. -/

namespace EapModule

def sendPackedEapMessage (message : Bytes) : Handler Unit :=
  .modify fun auth => { auth with eapQueue := auth.eapQueue ++ [some message] }

def sendEapMessage (srcMac : Address) (data : EapMessage) : Handler Unit := do
  let portId ← .read (·.authenticatorMac)
  let packed ← .ofExcept (MessagePacker.ethernetPack data portId srcMac)
  sendPackedEapMessage packed

/-- Ask the supplicant for its identity. -/
def sendEapolResponse (srcMac : Address) : Handler Unit :=
  sendEapMessage srcMac (.eap (some srcMac) (.identity Eap.REQUEST 255 []))

def shutDownModule : Handler Unit :=
  .modify fun auth => { auth with eapShutDown := true, eapQueue := auth.eapQueue ++ [none] }

end EapModule

/-- The last three octets of the address as a number.  `None` in its place is a
text without colons. -/
def portIdToInt : Option Address → Except Raised Nat
  | some portId => .ok (Bytes.toNat (portId.1.drop 3))
  | none => .error .valueError

namespace RadiusModule

def sendRadiusPacket (info : RadiusPacketInfo) : Handler Unit :=
  .modify fun auth => { auth with radiusQueue := auth.radiusQueue ++ [some info] }

/-- A socket that is closed already cannot be shut down. -/
def shutDownModule : Handler Unit := do
  .modify fun auth =>
    { auth with radiusShutDown := true, radiusQueue := auth.radiusQueue ++ [none] }
  let isOpen ← .read (·.radiusSocketOpen)
  .require (isOpen = true) .osError
  .modify fun auth => { auth with radiusSocketOpen := false }

def prepareExtraRadiusAttributes (setup : Setup) : Except Raised (List Attribute) := do
  let calledStationId ← Attribute.createString .calledStationId setup.moduleId
  let nasPortType ← Attribute.createNumber .nasPortType 15
  let nasIdentifier ← Attribute.createString .nasIdentifier setup.moduleId
  return [calledStationId, nasPortType, nasIdentifier]

/-- Take an id and register the request under it in both tables. -/
def registerRequest (info : RadiusPacketInfo) (requestAuthenticator : Bytes)
    (auth : Authenticator) : Authenticator :=
  { auth with
    nextRadiusId := auth.nextRadiusId + 1
    packetIdToMac := auth.packetIdToMac.insert auth.nextRadiusId (info.srcMac, info.portId)
    packetIdToRequestAuthenticator :=
      auth.packetIdToRequestAuthenticator.insert auth.nextRadiusId requestAuthenticator
    requests := auth.requests ++ [⟨auth.nextRadiusId, info.srcMac, requestAuthenticator⟩] }

def encodeRadiusResponse (setup : Setup) (info : RadiusPacketInfo)
    (requestAuthenticator : Bytes) : Handler Bytes := do
  let radiusPacketId ← .read (·.nextRadiusId)
  .modify (registerRequest info requestAuthenticator)
  let extraAttributes ← .ofExcept (prepareExtraRadiusAttributes setup)
  .ofExcept (MessagePacker.radiusPack setup.hashes info.payload info.srcMac info.identity
    radiusPacketId requestAuthenticator info.state setup.radiusSecret info.portId
    extraAttributes)

/-- `RadiusSocket.send`. -/
def socketSend (packed : Bytes) : Handler Unit := do
  let isOpen ← .read (·.radiusSocketOpen)
  .require (isOpen = true) .osError
  .modify fun auth => { auth with transmitted := auth.transmitted ++ [packed] }

/-- The body of `send_radius_messages` for the packet it took from the queue. -/
def sendRadiusMessage (setup : Setup) (requestAuthenticator : Bytes)
    (outboundPacket : Option RadiusPacketInfo) : Handler Unit :=
  .whenSome outboundPacket fun info => do
    let packed ← encodeRadiusResponse setup info requestAuthenticator
    socketSend packed

end RadiusModule

/-! The state machine. -/

namespace AuthStateMachine

/-- A machine as `initialize` leaves it. -/
def initialized (srcMac : Address) (authMac : Option Address) (timeout : Nat) :
    AuthStateMachine where
  srcMac
  state := .start
  identity := none
  authenticationMac := authMac
  radiusState := none
  currentTimeout := some timeout
  retry := .eapSend none
  currentRetries := 0

def stateTransition (machine : AuthStateMachine) (target : AuthState)
    (expected : AuthState) : Except Raised AuthStateMachine :=
  if machine.state = expected then .ok { machine with state := target }
  else .error .assertionError

/-- `_set_timeout` and `_set_retry_actions`, which always follow one another. -/
def await (machine : AuthStateMachine) (timeout : Nat) (retry : Retry) : AuthStateMachine :=
  { machine with currentTimeout := some timeout, retry, currentRetries := 0 }

/-- Only the first identity that is not empty is kept. -/
def noteIdentity (machine : AuthStateMachine) (message : EapMessage) : AuthStateMachine :=
  match message with
  | .eap _ (.identity _ _ text) =>
      if machine.identity.getD [] = [] then { machine with identity := some text } else machine
  | _ => machine

end AuthStateMachine

namespace Authenticator

/-- Write the fields of the machine registered for an address. -/
def store (srcMac : Address) (machine : AuthStateMachine) : Handler Unit :=
  .modify fun auth => { auth with stateMachines := auth.stateMachines.insert srcMac machine }

def sendEapResponse (srcMac : Address) : Option EapMessage → Handler Unit
  | none => EapModule.sendEapolResponse srcMac
  | some message => EapModule.sendEapMessage srcMac message

def endAuthentication : Handler Unit := do
  .modify fun auth => { auth with timerRunning := false }
  RadiusModule.shutDownModule
  EapModule.shutDownModule

def recordResult (srcMac : Address) (isSuccess : Bool) : Handler Unit := do
  .modify fun auth => { auth with results := auth.results.insert srcMac isSuccess }
  let machines ← .read (·.stateMachines)
  .require ((machines.get? srcMac).isSome = true) .keyError
  .modify fun auth => { auth with stateMachines := auth.stateMachines.erase srcMac }

def processTestResult (srcMac : Option Address) (isSuccess : Bool) : Handler Unit := do
  .whenSome srcMac fun present => recordResult present isSuccess
  endAuthentication

end Authenticator

namespace AuthStateMachine

open Authenticator (store sendEapResponse processTestResult)

variable (setup : Setup) (now : Nat)

def receivedEapolStart (machine : AuthStateMachine) : Handler Unit := do
  let moved ← .ofExcept (machine.stateTransition .supplicant .start)
  store machine.srcMac (moved.await (now + setup.idleTime) (.eapSend none))
  sendEapResponse machine.srcMac none

def receivedEapRequest (machine : AuthStateMachine) (message : EapMessage) : Handler Unit := do
  let named := machine.noteIdentity message
  store machine.srcMac named
  let moved ← .ofExcept (named.stateTransition .radius .supplicant)
  store machine.srcMac moved
  let portId ← .ofExcept (portIdToInt moved.authenticationMac)
  let info : RadiusPacketInfo :=
    { payload := message, srcMac := moved.srcMac, identity := moved.identity,
      state := moved.radiusState, portId }
  store machine.srcMac (moved.await (now + setup.idleTime) (.radiusSend info))
  RadiusModule.sendRadiusPacket info

/-- The message that tells the supplicant that it failed. -/
def failureMessage (srcMac : Address) : EapMessage := .eap (some srcMac) (.failure 255)

def receivedRadiusResponse (machine : AuthStateMachine) (payload : Option EapMessage)
    (radiusState : Option Bytes) (packetType : PacketType) : Handler Unit := do
  let told := { machine with radiusState }
  store machine.srcMac told
  match packetType with
  | .accessReject =>
      let moved ← .ofExcept (told.stateTransition .fail .radius)
      store machine.srcMac moved
      processTestResult (some machine.srcMac) false
      sendEapResponse machine.srcMac (some (failureMessage machine.srcMac))
  | .accessAccept =>
      let moved ← .ofExcept (told.stateTransition .success .radius)
      store machine.srcMac moved
      processTestResult (some machine.srcMac) true
      sendEapResponse machine.srcMac payload
  -- Every other packet class takes this branch, requests included.
  | .accessChallenge | .accessRequest =>
      let moved ← .ofExcept (told.stateTransition .supplicant .radius)
      store machine.srcMac (moved.await (now + setup.idleTime) (.eapSend payload))
      sendEapResponse machine.srcMac payload

def runRetry (machine : AuthStateMachine) : Handler Unit :=
  match machine.retry with
  | .eapSend message => sendEapResponse machine.srcMac message
  | .radiusSend info => RadiusModule.sendRadiusPacket info

def handleTimeout (machine : AuthStateMachine) : Handler Unit := do
  store machine.srcMac { machine with state := .fail, currentTimeout := none }
  processTestResult (some machine.srcMac) false
  sendEapResponse machine.srcMac (some (failureMessage machine.srcMac))

def Expired (machine : AuthStateMachine) : Prop :=
  ∃ timeout ∈ machine.currentTimeout, timeout < now

instance (machine : AuthStateMachine) : Decidable (machine.Expired now) :=
  inferInstanceAs (Decidable (∃ timeout ∈ machine.currentTimeout, timeout < now))

def handleTimer (machine : AuthStateMachine) : Handler Unit :=
  .when (machine.Expired now) (
    if machine.currentRetries < setup.retryCount then do
      store machine.srcMac
        { machine with
          currentRetries := machine.currentRetries + 1
          currentTimeout := some (now + setup.idleTime) }
      machine.runRetry
    else machine.handleTimeout)

end AuthStateMachine

namespace Authenticator

variable (setup : Setup) (now : Nat)

def machineOf (srcMac : Address) : Handler AuthStateMachine := do
  let machines ← .read (·.stateMachines)
  match machines.get? srcMac with
  | some machine => return machine
  | none => .raise .keyError

def startMachine (srcMac : Address) : Handler Unit := do
  let authMac ← .read (·.authenticatorMac)
  let machine := AuthStateMachine.initialized srcMac authMac (now + setup.idleTime)
  store srcMac machine
  machine.receivedEapolStart setup now

def receivedEapRequest (srcMac : Address) (message : EapMessage) (isEapol : Bool) :
    Handler Unit :=
  if isEapol then do
    let auth ← .get
    .when (auth.stateMachines.get? srcMac = none ∧ auth.results.get? srcMac = none)
      (startMachine setup now srcMac)
  else do
    let machine ← machineOf srcMac
    machine.receivedEapRequest setup now message

/-- What `receive_radius_messages` reads off the attributes of a packet. -/
structure RadiusPacketAttributes where
  eapMessage : Option EapMessage
  state : Option Bytes
  deriving DecidableEq, Repr

def receivedRadiusResponse (srcMac : Address) (attributes : RadiusPacketAttributes)
    (packetType : PacketType) : Handler Unit := do
  let machine ← machineOf srcMac
  machine.receivedRadiusResponse setup now attributes.eapMessage attributes.state packetType

/-- The loop over `values()`: the dictionary may not change its size meanwhile. -/
def sweep (size : Nat) : List Address → Handler Unit
  | [] => do
      let machines ← .read (·.stateMachines)
      .require (machines.size = size) .runtimeError
  | srcMac :: rest => do
      let machines ← .read (·.stateMachines)
      .require (machines.size = size) .runtimeError
      .whenSome (machines.get? srcMac) fun machine => machine.handleTimer setup now
      sweep size rest

def handleSmTimeout : Handler Unit := do
  let auth ← .get
  if auth.stateMachines.size = 0 then
    .when (auth.currentTimeout < now) (processTestResult none false)
  else
    sweep setup now auth.stateMachines.size auth.stateMachines.keys

end Authenticator

/-! The loops of the threads. -/

namespace EapModule

def srcMacOf : EapMessage → Option Address
  | .eap srcMac _ | .eapolStart srcMac | .eapolLogoff srcMac => srcMac

def isEapolStart : EapMessage → Bool
  | .eapolStart _ => true
  | _ => false

/-- The body of `receive_eap_messages` for one frame. -/
def receiveEapMessage (setup : Setup) (now : Nat) (packedMessage : Bytes) : Handler Unit :=
  .when (packedMessage ≠ []) (
    match MessageParser.ethernetParse packedMessage with
    | .error (.messageParse _) => pure ()
    | .error raised => .raise raised
    | .ok (message, _) => do
        .when (isEapolStart message = true)
          (.modify fun auth => { auth with authenticatorMac := some setup.eapAddress })
        .whenSome (srcMacOf message) fun srcMac =>
          Authenticator.receivedEapRequest setup now srcMac message (isEapolStart message))

end EapModule

namespace RadiusModule

open Authenticator (RadiusPacketAttributes)

/-- The loop over the attributes of a packet; a later value replaces an earlier one. -/
def readAttributes : List Attribute → RadiusPacketAttributes →
    Except Raised RadiusPacketAttributes
  | [], found => .ok found
  | attr :: rest, found =>
      if attr.type = .eapMessage then do
        let message ← MessageParser.eapParse attr.bytesData none
        readAttributes rest { found with eapMessage := some message }
      else if attr.type = .state then
        readAttributes rest { found with state := some attr.bytesData }
      else readAttributes rest found

/-- The arguments of `auth_callback`. -/
structure Callback where
  srcMac : Address
  attributes : RadiusPacketAttributes
  packetType : PacketType
  deriving DecidableEq, Repr

/-- The callback that a datagram leads to; none when it is dropped. -/
def decodeCallback (setup : Setup) (auth : Authenticator) (packedMessage : Bytes) :
    Except Raised (Option Callback) :=
  match Radius.parse setup.hashes packedMessage setup.radiusSecret
      auth.packetIdToRequestAuthenticator with
  | .error (.messageParse _) => .ok none
  | .error raised => .error raised
  | .ok radius => do
      let attributes ← readAttributes radius.attributes ⟨none, none⟩
      match auth.packetIdToMac.get? radius.packetId with
      | none => throw .keyError
      | some (srcMac, _) => return some { srcMac, attributes, packetType := radius.packetType }

/-- The body of `receive_radius_messages` for one datagram. -/
def receiveRadiusMessage (setup : Setup) (now : Nat) (packedMessage : Bytes) :
    Handler Unit := do
  let auth ← .get
  let callback ← .ofExcept (decodeCallback setup auth packedMessage)
  .whenSome callback fun callback =>
    Authenticator.receivedRadiusResponse setup now callback.srcMac callback.attributes
      callback.packetType

end RadiusModule

/-- What `os.urandom(16)` returns. -/
abbrev Nonce := { bytes : Bytes // bytes.length = 16 }

/-- What happens to the authenticator.  The times are readings of the clock; a
request is sent with the random authenticator that was generated for it. -/
inductive Event where
  | frame (packedMessage : Bytes) (now : Nat)
  | datagram (packedMessage : Bytes) (now : Nat)
  | tick (now : Nat)
  | send (requestAuthenticator : Nonce)
  deriving DecidableEq, Repr

/-- How a loop goes on after an iteration. -/
def Thread.after (shutDown : Bool) : Except Raised Unit → Thread
  | .ok _ => if shutDown then .ended else .serving
  | .error raised => .failed raised

namespace Authenticator

/-- `recv(4096)`. -/
def received (packedMessage : Bytes) : Bytes := packedMessage.take 4096

/-- An iteration of `receive_eap_messages`, if the loop still runs. -/
def takeFrame (setup : Setup) (packedMessage : Bytes) (now : Nat) (auth : Authenticator) :
    Authenticator :=
  if auth.eapReceiver = .serving then
    let ended := (EapModule.receiveEapMessage setup now (received packedMessage)).run auth
    { ended.2 with eapReceiver := .after ended.2.eapShutDown ended.1 }
  else auth

/-- An iteration of `receive_radius_messages`, if the loop still runs. -/
def takeDatagram (setup : Setup) (packedMessage : Bytes) (now : Nat) (auth : Authenticator) :
    Authenticator :=
  if auth.radiusReceiver = .serving then
    let ended := (RadiusModule.receiveRadiusMessage setup now (received packedMessage)).run auth
    { ended.2 with radiusReceiver := .after ended.2.radiusShutDown ended.1 }
  else auth

/-- The heartbeat scheduler logs whatever its callback raises. -/
def takeTick (setup : Setup) (now : Nat) (auth : Authenticator) : Authenticator :=
  if auth.timerRunning then ((handleSmTimeout setup now).run auth).2 else auth

/-- An iteration of `send_radius_messages`, if the loop still runs and the queue
is not empty. -/
def takePacket (setup : Setup) (requestAuthenticator : Nonce) (auth : Authenticator) :
    Authenticator :=
  match auth.radiusQueue with
  | [] => auth
  | outboundPacket :: rest =>
      if auth.radiusSender = .serving then
        let ended :=
          (RadiusModule.sendRadiusMessage setup requestAuthenticator.1 outboundPacket).run
            { auth with radiusQueue := rest }
        { ended.2 with radiusSender := .after ended.2.radiusShutDown ended.1 }
      else auth

def step (setup : Setup) : Event → Authenticator → Authenticator
  | .frame packedMessage now, auth => takeFrame setup packedMessage now auth
  | .datagram packedMessage now, auth => takeDatagram setup packedMessage now auth
  | .tick now, auth => takeTick setup now auth
  | .send requestAuthenticator, auth => takePacket setup requestAuthenticator auth

def runEvents (setup : Setup) (events : List Event) (auth : Authenticator) : Authenticator :=
  events.foldl (fun auth event => step setup event auth) auth

end Authenticator

/-! A conversation, with a hash that returns the authenticator it is applied to. -/

namespace Sample

def echo (message : Bytes) : Bytes := ((message.drop 4).take 16 ++ List.replicate 16 0).take 16

def hashes : Hashes where
  md5 := echo
  hmacMd5 _ := echo
  length_md5 message := by simp [echo]
  length_hmacMd5 _ message := by simp [echo]

def setup : Setup where
  hashes
  radiusSecret := [115]
  moduleId := [109]
  eapAddress := ⟨[1, 128, 194, 0, 0, 3], rfl⟩

def supplicant : Address := ⟨[2, 0, 0, 0, 0, 1], rfl⟩

def ethernet (payload : Bytes) : Bytes :=
  setup.eapAddress.1 ++ supplicant.1 ++ [0x88, 0x8e] ++ payload

def startFrame : Bytes := ethernet [1, 1, 0, 0]

def identityFrame (identity : Bytes) : Bytes :=
  ethernet ([1, 0] ++ Bytes.ofNat 2 (5 + identity.length) ++
    [2, 255] ++ Bytes.ofNat 2 (5 + identity.length) ++ [1] ++ identity)

def requestAuthenticator : Nonce := ⟨List.replicate 16 9, rfl⟩

def response (packetType : PacketType) (packetId : UInt8) (attributes : Bytes) : Bytes :=
  [packetType.code, packetId] ++ Bytes.ofNat 2 (20 + attributes.length) ++
    requestAuthenticator.1 ++ attributes

/-- An EAP-Message attribute that holds an EAP success. -/
def successAttribute : Bytes := [79, 6, 3, 255, 0, 4]

/-- The events up to the point where the RADIUS server has been asked. -/
def asked : List Event :=
  [.frame startFrame 10, .frame (identityFrame [117, 115, 101, 114]) 11,
    .send requestAuthenticator]

def begun : Authenticator := Authenticator.initial setup 0

end Sample

example :
    (Authenticator.runEvents Sample.setup
      (Sample.asked ++ [.datagram (Sample.response .accessAccept 0 Sample.successAttribute) 12])
      Sample.begun).results.entries = [(Sample.supplicant, true)] := by
  decide +kernel

end Daq.Dot1x
