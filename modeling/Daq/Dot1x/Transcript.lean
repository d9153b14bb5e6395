import Daq.Dot1x.Evolution

namespace Daq.Dot1x

open Exec

/-! What is handed to the machines in the course of a run, and what each of them
remembers of it. -/

/-- What is handed to a machine: a message of its supplicant or an answer of the server. -/
inductive Delivery where
  | heard (srcMac : Address) (message : EapMessage)
  | told (callback : RadiusModule.Callback)
  deriving DecidableEq, Repr

namespace Delivery

def address : Delivery → Address
  | heard srcMac _ => srcMac
  | told callback => callback.srcMac

/-- The text of an identity message. -/
def identityText : Delivery → Option Bytes
  | heard _ (.eap _ (.identity _ _ text)) => some text
  | _ => none

/-- The State of an answer, itself optional. -/
def stateTold : Delivery → Option (Option Bytes)
  | told callback => some callback.attributes.state
  | heard _ _ => none

/-- The delivery that a frame stands for.  An EAPOL start only creates a machine. -/
def ofFrame (packedMessage : Bytes) : Option Delivery :=
  match MessageParser.ethernetParse packedMessage with
  | .error _ => none
  | .ok (message, _) =>
      if EapModule.isEapolStart message then none
      else (EapModule.srcMacOf message).map (heard · message)

/-- The delivery that a datagram stands for. -/
def ofDatagram (setup : Setup) (auth : Authenticator) (packedMessage : Bytes) : Option Delivery :=
  match RadiusModule.decodeCallback setup auth packedMessage with
  | .error _ => none
  | .ok callback => callback.map told

end Delivery

namespace Authenticator

/-- There is a machine for the address of the delivery. -/
def attends (auth : Authenticator) (delivery : Delivery) : Bool :=
  (auth.stateMachines.get? delivery.address).isSome

/-- What an event hands to a machine, by a thread that still runs. -/
def delivery (setup : Setup) (auth : Authenticator) : Event → Option Delivery
  | .frame packedMessage _ =>
      if auth.eapReceiver = .serving then
        (Delivery.ofFrame (received packedMessage)).filter auth.attends
      else none
  | .datagram packedMessage _ =>
      if auth.radiusReceiver = .serving then
        (Delivery.ofDatagram setup auth (received packedMessage)).filter auth.attends
      else none
  | .tick _ | .send _ => none

/-- Everything that a run hands to the machines, in order. -/
def transcript (setup : Setup) : Authenticator → List Event → List Delivery
  | _, [] => []
  | auth, event :: rest =>
      (delivery setup auth event).toList ++ transcript setup (step setup event auth) rest

end Authenticator

/-- The part of a transcript that concerns an address. -/
def about (srcMac : Address) (log : List Delivery) : List Delivery :=
  log.filter (·.address = srcMac)

/-- The first identity that is not empty. -/
def identityIn (log : List Delivery) : Option Bytes :=
  (log.filterMap Delivery.identityText).find? (· ≠ [])

/-- The State of the last answer. -/
def stateIn (log : List Delivery) : Option Bytes :=
  (log.filterMap Delivery.stateTold).getLast?.join

section Transcripts

variable {srcMac : Address} {log extra : List Delivery}

theorem about_append (srcMac : Address) (log extra : List Delivery) :
    about srcMac (log ++ extra) = about srcMac log ++ about srcMac extra :=
  List.filter_append _ _

theorem about_other {delivery : Delivery} (different : delivery.address ≠ srcMac) :
    about srcMac [delivery] = [] := by
  simp [about, different]

theorem about_self (delivery : Delivery) : about delivery.address [delivery] = [delivery] := by
  simp [about]

theorem identityIn_told (log : List Delivery) (callback : RadiusModule.Callback) :
    identityIn (log ++ [.told callback]) = identityIn log := by
  simp [identityIn, Delivery.identityText]

theorem stateIn_told (log : List Delivery) (callback : RadiusModule.Callback) :
    stateIn (log ++ [.told callback]) = callback.attributes.state := by
  simp [stateIn, Delivery.stateTold]

theorem stateIn_heard (log : List Delivery) (srcMac : Address) (message : EapMessage) :
    stateIn (log ++ [.heard srcMac message]) = stateIn log := by
  simp [stateIn, Delivery.stateTold]

theorem identityIn_filled {name : Bytes} (named : identityIn log = some name) : name ≠ [] := by
  simpa using List.find?_some named

/-- An identity counts as long as there is none but empty ones before it. -/
theorem identityIn_heard {machine : AuthStateMachine}
    (known : machine.identity.getD [] = (identityIn log).getD []) (srcMac : Address)
    (message : EapMessage) :
    (machine.noteIdentity message).identity.getD [] =
      (identityIn (log ++ [.heard srcMac message])).getD [] := by
  have split : identityIn (log ++ [.heard srcMac message]) =
      (identityIn log).or (identityIn [.heard srcMac message]) := by
    simp only [identityIn, List.filterMap_append, List.find?_append]
  rw [split]
  cases message with
  | eapolStart _ | eapolLogoff _ =>
      rw [show identityIn [.heard srcMac _] = none from rfl, Option.or_none]
      exact known
  | eap source packet =>
      cases packet with
      | identity code packetId text =>
          have last : (identityIn [.heard srcMac (.eap source (.identity code packetId text))]).getD
              [] = text := by
            cases text with
            | nil => rfl
            | cons => rfl
          rw [AuthStateMachine.noteIdentity, known]
          cases named : identityIn log with
          | none => rw [Option.getD_none, if_pos rfl, Option.none_or, last]; rfl
          | some name =>
              rw [Option.getD_some, if_neg (identityIn_filled named), known, named]
              rfl
      | _ =>
          rw [show identityIn [.heard srcMac (.eap source _)] = none from rfl, Option.or_none]
          exact known

theorem filter_attends (auth : Authenticator) (delivery : Delivery) :
    ((some delivery).filter auth.attends).toList =
      if auth.attends delivery then [delivery] else [] := by
  rw [Option.filter_some]
  split
  · rfl
  · rfl

end Transcripts

namespace Sample

/-- The server accepts the supplicant of the sample conversation. -/
def acceptance : List Event :=
  asked ++ [.datagram (response .accessAccept 0 successAttribute) 12]

example : (begun.transcript setup acceptance).map Delivery.address = [supplicant, supplicant] := by
  decide +kernel

end Sample

end Daq.Dot1x
