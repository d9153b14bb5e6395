import Daq.Dot1x.Forgery
import Daq.Lib.Raises

namespace Daq.Dot1x

open Fallible

/-! What a handler that fails its assertion about the state of the machine has
changed by then, and what later messages notice of it. -/

/-- What a state machine is told. -/
inductive Notice where
  | eapolStart
  | eapMessage (message : EapMessage)
  | radiusResponse (payload : Option EapMessage) (radiusState : Option Bytes)
      (packetType : PacketType)
  | timer
  deriving DecidableEq, Repr

namespace Notice

/-- The text of an Identity message. -/
def identity : Notice → Option Bytes
  | .eapMessage (.eap _ (.identity _ _ text)) => some text
  | _ => none

/-- The State that came with a response. -/
def radiusState : Notice → Option (Option Bytes)
  | .radiusResponse _ radiusState _ => some radiusState
  | _ => none

end Notice

namespace AuthStateMachine

/-- The handler of a notice. -/
def handle (setup : Setup) (now : Nat) (machine : AuthStateMachine) : Notice → Handler Unit
  | .eapolStart => machine.receivedEapolStart setup now
  | .eapMessage message => machine.receivedEapRequest setup now message
  | .radiusResponse payload radiusState packetType =>
      machine.receivedRadiusResponse setup now payload radiusState packetType
  | .timer => machine.handleTimer setup now

/-- The state that the handler of a notice asserts the machine to be in. -/
def expected : Notice → Option AuthState
  | .eapolStart => some .start
  | .eapMessage _ => some .supplicant
  | .radiusResponse .. => some .radius
  | .timer => none

/-- The machine at the assertion of a handler. -/
def touched (machine : AuthStateMachine) : Notice → AuthStateMachine
  | .eapolStart | .timer => machine
  | .eapMessage message => machine.noteIdentity message
  | .radiusResponse _ radiusState _ => { machine with radiusState }

/-- The machine has what the handler of a notice writes before its assertion: an
identity that is not empty, or the one in the message, and the State of the response. -/
def Unnoticed (machine : AuthStateMachine) (notice : Notice) : Prop :=
  (∀ text ∈ notice.identity, machine.identity.getD [] ≠ [] ∨ machine.identity = some text) ∧
    ∀ radiusState ∈ notice.radiusState, machine.radiusState = radiusState

instance (machine : AuthStateMachine) (notice : Notice) : Decidable (machine.Unnoticed notice) :=
  inferInstanceAs (Decidable (_ ∧ _))

theorem noteIdentity_eq_self_iff {machine : AuthStateMachine} {message : EapMessage} :
    machine.noteIdentity message = machine ↔ machine.Unnoticed (.eapMessage message) := by
  unfold noteIdentity
  split
  · rename_i source code packetId text
    cases machine
    simp [Unnoticed, Notice.identity, Notice.radiusState]
    rw [← imp_iff_not_or, @eq_comm _ (some text)]
  · rename_i other
    have silent : (Notice.eapMessage message).identity = none := by
      unfold Notice.identity
      split
      · rename_i shape
        cases shape
        exact absurd rfl (other _ _ _ _)
      · rfl
    simp [Unnoticed, silent, Notice.radiusState]

theorem touched_eq_self_iff {machine : AuthStateMachine} {notice : Notice} :
    machine.touched notice = machine ↔ machine.Unnoticed notice := by
  cases notice with
  | eapolStart | timer => simp [touched, Unnoticed, Notice.identity, Notice.radiusState]
  | eapMessage message => exact noteIdentity_eq_self_iff
  | radiusResponse payload radiusState packetType =>
      cases machine
      simp [touched, Unnoticed, Notice.identity, Notice.radiusState]
      exact eq_comm

end AuthStateMachine

/-! Only the assertions about the state raise `AssertionError`. -/

/-- The exception is another than `AssertionError`. -/
abbrev Other (raised : Raised) : Prop := raised ≠ .assertionError

theorem packUnsigned_other (width value : Nat) :
    Fallible.RaisesOnly Other (packUnsigned width value) := by
  unfold packUnsigned
  split
  · exact raisesOnly_ok _
  · exact raisesOnly_error (by decide)

theorem packTyped_other (code packetId packetType : UInt8) (body : Bytes) :
    Fallible.RaisesOnly Other (Eap.packTyped code packetId packetType body) :=
  raisesOnly_bind (packUnsigned_other _ _) fun _ => raisesOnly_pure _

theorem packUntyped_other (code packetId : UInt8) :
    Fallible.RaisesOnly Other (Eap.packUntyped code packetId) :=
  raisesOnly_bind (packUnsigned_other _ _) fun _ => raisesOnly_pure _

theorem eap_pack_other (eap : Eap) : Fallible.RaisesOnly Other eap.pack := by
  cases eap with
  | identity code packetId text => exact packTyped_other _ _ _ _
  | md5Challenge code packetId challenge extraData =>
      exact raisesOnly_bind (packUnsigned_other _ _) fun _ => packTyped_other _ _ _ _
  | success packetId => exact packUntyped_other _ _
  | failure packetId => exact packUntyped_other _ _
  | legacyNak code packetId desiredAuthTypes =>
      apply raisesOnly_bind
      · unfold packChars
        split
        · exact raisesOnly_ok _
        · exact raisesOnly_error (by decide)
      · exact fun _ => packTyped_other _ _ _ _
  | tls kind code packetId flags extraData => exact packTyped_other _ _ _ _

theorem ethernetPack_other (message : EapMessage) (srcMac : Option Address)
    (dstMac : Address) :
    Fallible.RaisesOnly Other (MessagePacker.ethernetPack message srcMac dstMac) := by
  have eapPack : Fallible.RaisesOnly Other (MessagePacker.eapPack message) := by
    cases message with
    | eap source packet => exact raisesOnly_bind (eap_pack_other packet) fun _ => raisesOnly_pure _
    | eapolStart source => exact raisesOnly_ok _
    | eapolLogoff source => exact raisesOnly_ok _
  have pack : Fallible.RaisesOnly Other (MessagePacker.pack message) :=
    raisesOnly_bind eapPack fun _ =>
      raisesOnly_bind (packUnsigned_other _ _) fun _ => raisesOnly_pure _
  refine raisesOnly_bind pack fun data => ?_
  cases srcMac with
  | none => exact raisesOnly_error (by decide)
  | some source => exact raisesOnly_pure _

theorem sendEapResponse_other (srcMac : Address) (message : Option EapMessage) :
    (Authenticator.sendEapResponse srcMac message).RaisesOnly Other := by
  have sent : ∀ data, (EapModule.sendEapMessage srcMac data).RaisesOnly Other := fun data =>
    Exec.raisesOnly_bind (Exec.raisesOnly_read _) fun portId =>
      Exec.raisesOnly_bind (Exec.raisesOnly_ofExcept (ethernetPack_other data portId srcMac))
        fun _ => Exec.raisesOnly_modify _
  cases message with
  | none => exact sent _
  | some data => exact sent data

theorem recordResult_other (srcMac : Address) (isSuccess : Bool) :
    (Authenticator.recordResult srcMac isSuccess).RaisesOnly Other :=
  Exec.raisesOnly_bind (Exec.raisesOnly_modify _) fun _ =>
    Exec.raisesOnly_bind (Exec.raisesOnly_read _) fun _ =>
      Exec.raisesOnly_bind (Exec.raisesOnly_require (show Other .keyError by decide)) fun _ =>
        Exec.raisesOnly_modify _

theorem endAuthentication_other : Authenticator.endAuthentication.RaisesOnly Other := by
  have closed : RadiusModule.shutDownModule.RaisesOnly Other :=
    Exec.raisesOnly_bind (Exec.raisesOnly_modify _) fun _ =>
      Exec.raisesOnly_bind (Exec.raisesOnly_read _) fun _ =>
        Exec.raisesOnly_bind (Exec.raisesOnly_require (show Other .osError by decide)) fun _ =>
          Exec.raisesOnly_modify _
  exact Exec.raisesOnly_bind (Exec.raisesOnly_modify _) fun _ =>
    Exec.raisesOnly_bind closed fun _ => Exec.raisesOnly_modify _

theorem processTestResult_other (srcMac : Option Address) (isSuccess : Bool) :
    (Authenticator.processTestResult srcMac isSuccess).RaisesOnly Other :=
  Exec.raisesOnly_bind (Exec.raisesOnly_whenSome fun present => recordResult_other present isSuccess)
    fun _ => endAuthentication_other

namespace AuthStateMachine

variable (setup : Setup) (now : Nat)

theorem conclude_other (srcMac : Address) (isSuccess : Bool) (message : Option EapMessage) :
    (do
      Authenticator.processTestResult (some srcMac) isSuccess
      Authenticator.sendEapResponse srcMac message : Handler Unit).RaisesOnly Other :=
  Exec.raisesOnly_bind (processTestResult_other _ _) fun _ => sendEapResponse_other _ _

theorem handleTimer_other (machine : AuthStateMachine) :
    (machine.handleTimer setup now).RaisesOnly Other := by
  have retried : machine.runRetry.RaisesOnly Other := by
    unfold runRetry
    cases machine.retry with
    | eapSend message => exact sendEapResponse_other _ _
    | radiusSend info => exact Exec.raisesOnly_modify _
  refine Exec.raisesOnly_when ?_
  split
  · exact Exec.raisesOnly_bind (Exec.raisesOnly_modify _) fun _ => retried
  · exact Exec.raisesOnly_bind (Exec.raisesOnly_modify _) fun _ => conclude_other _ _ _

theorem portIdToInt_other (portId : Option Address) :
    Fallible.RaisesOnly Other (portIdToInt portId) := by
  cases portId with
  | none => exact raisesOnly_error (by decide)
  | some address => exact raisesOnly_ok _

theorem handle_other {machine : AuthStateMachine} {notice : Notice}
    (met : ∀ state ∈ expected notice, machine.state = state) :
    (machine.handle setup now notice).RaisesOnly Other := by
  have moves : ∀ (current : AuthStateMachine) target state, current.state = state →
      Fallible.RaisesOnly Other (current.stateTransition target state) := by
    intro current target state same
    rw [stateTransition, if_pos same]
    exact raisesOnly_ok _
  cases notice with
  | eapolStart =>
      exact Exec.raisesOnly_bind (Exec.raisesOnly_ofExcept (moves _ _ _ (met _ rfl))) fun _ =>
        Exec.raisesOnly_bind (Exec.raisesOnly_modify _) fun _ => sendEapResponse_other _ _
  | eapMessage message =>
      have state := (noteIdentity_annotates machine message).2.1.trans (met _ rfl)
      exact Exec.raisesOnly_bind (Exec.raisesOnly_modify _) fun _ =>
        Exec.raisesOnly_bind (Exec.raisesOnly_ofExcept (moves _ _ _ state)) fun _ =>
          Exec.raisesOnly_bind (Exec.raisesOnly_modify _) fun _ =>
            Exec.raisesOnly_bind (Exec.raisesOnly_ofExcept (portIdToInt_other _)) fun _ =>
              Exec.raisesOnly_bind (Exec.raisesOnly_modify _) fun _ => Exec.raisesOnly_modify _
  | radiusResponse payload radiusState packetType =>
      refine Exec.raisesOnly_bind (Exec.raisesOnly_modify _) fun _ => ?_
      cases packetType with
      | accessReject | accessAccept =>
          exact Exec.raisesOnly_bind (Exec.raisesOnly_ofExcept (moves _ _ _ (met _ rfl)))
            fun _ => Exec.raisesOnly_bind (Exec.raisesOnly_modify _) fun _ =>
              conclude_other _ _ _
      | accessChallenge | accessRequest =>
          exact Exec.raisesOnly_bind (Exec.raisesOnly_ofExcept (moves _ _ _ (met _ rfl)))
            fun _ => Exec.raisesOnly_bind (Exec.raisesOnly_modify _) fun _ =>
              sendEapResponse_other _ _
  | timer => exact handleTimer_other setup now machine

theorem handle_unexpected {auth : Authenticator} {machine : AuthStateMachine} {notice : Notice}
    {state : AuthState} (asserted : expected notice = some state) (unmet : machine.state ≠ state)
    (present : auth.stateMachines.get? machine.srcMac = some machine) :
    (machine.handle setup now notice).run auth =
      (.error .assertionError,
        { auth with
          stateMachines := auth.stateMachines.insert machine.srcMac (machine.touched notice) }) := by
  cases notice with
  | eapolStart =>
      cases asserted
      have kept := Dict.insert_eq_self present
      simp [handle, receivedEapolStart, stateTransition, unmet, touched, kept, Bind.bind,
        Exec.ofExcept]
  | eapMessage message =>
      cases asserted
      have state := (noteIdentity_annotates machine message).2.1
      simp [handle, receivedEapRequest, stateTransition, state, unmet, touched,
        Authenticator.store, Bind.bind, Exec.ofExcept, Exec.modify]
  | radiusResponse payload radiusState packetType =>
      cases asserted
      exact receivedRadiusResponse_unexpected now unmet payload radiusState packetType
  | timer => cases asserted

end AuthStateMachine

/-- A machine is created for an address, or the machine of an address is told
something. -/
inductive Call where
  | create (srcMac : Address) (now : Nat)
  | notify (srcMac : Address) (notice : Notice) (now : Nat)
  deriving DecidableEq, Repr

namespace Call

variable (setup : Setup)

def perform : Call → Handler Unit
  | .create srcMac now => do
      let authMac ← .read (·.authenticatorMac)
      Authenticator.store srcMac
        (AuthStateMachine.initialized srcMac authMac (now + setup.idleTime))
  | .notify srcMac notice now => do
      let machine ← Authenticator.machineOf srcMac
      machine.handle setup now notice

def after (call : Call) (auth : Authenticator) : Authenticator := ((call.perform setup).run auth).2

/-- The handler fails its assertion about the state of the machine. -/
def Rejected (call : Call) (auth : Authenticator) : Prop :=
  ((call.perform setup).run auth).1 = .error .assertionError

instance (call : Call) (auth : Authenticator) : Decidable (call.Rejected setup auth) :=
  inferInstanceAs (Decidable (_ = _))

/-- What the rejected handler of a call wrote was there before. -/
def Unnoticed (call : Call) (auth : Authenticator) : Prop :=
  match call with
  | .create _ _ => True
  | .notify srcMac notice _ =>
      ∀ machine ∈ auth.stateMachines.get? srcMac, machine.Unnoticed notice

instance (auth : Authenticator) : (call : Call) → Decidable (call.Unnoticed auth)
  | .create _ _ => .isTrue trivial
  | .notify srcMac notice _ =>
      inferInstanceAs (Decidable (∀ machine ∈ auth.stateMachines.get? srcMac,
        machine.Unnoticed notice))

end Call

/-- Each machine is filed under its own address. -/
def Keyed (auth : Authenticator) : Prop :=
  ∀ srcMac machine, auth.stateMachines.get? srcMac = some machine → machine.srcMac = srcMac

def keyedFrame : Frame Authenticator := Frame.invariant Keyed

theorem store_keyed {srcMac : Address} {machine : AuthStateMachine}
    (own : machine.srcMac = srcMac) : (Authenticator.store srcMac machine).Within keyedFrame := by
  apply Exec.within_modify
  intro auth keyed other found present
  rw [Dict.get?_insert] at present
  split at present
  · rename_i same
    cases present
    exact own.trans same.symm
  · exact keyed other found present

theorem coreFrame_keyed {α : Type} {program : Handler α} (within : program.Within coreFrame) :
    program.Within keyedFrame := by
  apply within.mono
  intro auth reached kept keyed srcMac machine present
  have machines : reached.stateMachines = auth.stateMachines := congrArg Prod.fst kept.1
  rw [machines] at present
  exact keyed srcMac machine present

theorem processTestResult_keyed (srcMac : Option Address) (isSuccess : Bool) :
    (Authenticator.processTestResult srcMac isSuccess).Within keyedFrame := by
  refine Exec.within_bind (Exec.within_whenSome _ fun present => ?_) fun _ =>
    coreFrame_keyed endAuthentication_within
  refine Exec.within_bind (Exec.within_modify fun _ keyed => keyed) fun _ =>
    Exec.within_bind (Exec.within_read _) fun _ =>
      Exec.within_bind (Exec.within_require _) fun _ => Exec.within_modify ?_
  intro auth keyed other machine found
  apply keyed other machine
  rw [Dict.get?_erase] at found
  split at found
  · cases found
  · exact found

namespace AuthStateMachine

variable (setup : Setup) (now : Nat)

theorem handle_keyed (machine : AuthStateMachine) (notice : Notice) :
    (machine.handle setup now notice).Within keyedFrame := by
  have moved : ∀ {current next : AuthStateMachine} {target state : AuthState},
      current.srcMac = machine.srcMac → current.stateTransition target state = .ok next →
        next.srcMac = machine.srcMac := by
    intro current next target state own moves
    unfold stateTransition at moves
    split at moves <;> cases moves
    exact own
  have sent : ∀ srcMac message,
      (Authenticator.sendEapResponse srcMac message).Within keyedFrame :=
    fun srcMac message => coreFrame_keyed (sendEapResponse_within srcMac message)
  cases notice with
  | eapolStart =>
      exact Exec.within_ofExcept_bind fun next moves =>
        Exec.within_bind (store_keyed (show next.srcMac = _ from moved rfl moves)) fun _ => sent _ _
  | eapMessage message =>
      have own := (noteIdentity_annotates machine message).1
      exact Exec.within_bind (store_keyed own) fun _ =>
        Exec.within_ofExcept_bind fun next moves =>
          Exec.within_bind (store_keyed (show next.srcMac = _ from moved own moves)) fun _ =>
            Exec.within_bind (Exec.within_ofExcept _) fun _ =>
              Exec.within_bind (store_keyed (show next.srcMac = _ from moved own moves)) fun _ =>
                coreFrame_keyed (sendRadiusPacket_within _)
  | radiusResponse payload radiusState packetType =>
      have own : { machine with radiusState }.srcMac = machine.srcMac := rfl
      refine Exec.within_bind (store_keyed own) fun _ => ?_
      cases packetType with
      | accessReject | accessAccept =>
          exact Exec.within_ofExcept_bind fun next moves =>
            Exec.within_bind (store_keyed (show next.srcMac = _ from moved own moves))
              fun _ => Exec.within_bind (processTestResult_keyed _ _) fun _ => sent _ _
      | accessChallenge | accessRequest =>
          exact Exec.within_ofExcept_bind fun next moves =>
            Exec.within_bind (store_keyed (show next.srcMac = _ from moved own moves))
              fun _ => sent _ _
  | timer =>
      refine Exec.within_when (Exec.within_ite ?_ ?_)
      · exact Exec.within_bind (store_keyed rfl) fun _ =>
          coreFrame_keyed (runRetry_within machine)
      · exact Exec.within_bind (store_keyed rfl) fun _ =>
          Exec.within_bind (processTestResult_keyed _ _) fun _ => sent _ _

end AuthStateMachine

namespace Call

variable {setup : Setup} {auth start : Authenticator}

theorem perform_keyed (call : Call) : (call.perform setup).Within keyedFrame := by
  cases call with
  | create srcMac now =>
      exact Exec.within_bind (Exec.within_read _) fun _ => store_keyed rfl
  | notify srcMac notice now =>
      refine Exec.within_bind (Exec.within_bind (Exec.within_read _) fun machines => ?_)
        fun machine => AuthStateMachine.handle_keyed setup now machine notice
      cases machines.get? srcMac with
      | none => exact Exec.within_raise _
      | some machine => exact Exec.within_pure machine

theorem after_keyed (call : Call) (keyed : Keyed auth) : Keyed (call.after setup auth) :=
  perform_keyed call auth keyed

theorem notify_run {srcMac : Address} {machine : AuthStateMachine} (notice : Notice) (now : Nat)
    (present : auth.stateMachines.get? srcMac = some machine) :
    ((notify srcMac notice now).perform setup).run auth =
      (machine.handle setup now notice).run auth := by
  have found : (Authenticator.machineOf srcMac).run auth = (.ok machine, auth) := by
    unfold Authenticator.machineOf
    rw [Exec.read_bind_run, present]
    rfl
  exact Exec.bind_run_ok found

/-- A rejected call has written what its handler writes before the assertion. -/
theorem Rejected.after_eq {srcMac : Address} {machine : AuthStateMachine} {notice : Notice}
    {now : Nat} (keyed : Keyed auth)
    (present : auth.stateMachines.get? srcMac = some machine)
    (rejected : (notify srcMac notice now).Rejected setup auth) :
    (notify srcMac notice now).after setup auth =
      { auth with
        stateMachines := auth.stateMachines.insert srcMac (machine.touched notice) } := by
  have own := keyed srcMac machine present
  subst own
  rw [Rejected, notify_run notice now present] at rejected
  rw [after, notify_run notice now present]
  by_cases met : ∀ state ∈ AuthStateMachine.expected notice, machine.state = state
  · exact absurd rfl (AuthStateMachine.handle_other setup now met auth _ rejected)
  · push Not at met
    obtain ⟨state, asserted, unmet⟩ := met
    rw [AuthStateMachine.handle_unexpected setup now asserted unmet present]

/-- A rejected call that its machine does not notice changes nothing at all. -/
theorem Rejected.after_eq_self {call : Call} (keyed : Keyed auth)
    (rejected : call.Rejected setup auth) (unnoticed : call.Unnoticed auth) :
    call.after setup auth = auth := by
  cases call with
  | create srcMac now => cases rejected
  | notify srcMac notice now =>
      cases present : auth.stateMachines.get? srcMac with
      | none =>
          have missing : (Authenticator.machineOf srcMac).run auth = (.error .keyError, auth) := by
            unfold Authenticator.machineOf
            rw [Exec.read_bind_run, present]
            rfl
          rw [Rejected, perform, Exec.bind_run_error missing] at rejected
          cases rejected
      | some machine =>
          have same := AuthStateMachine.touched_eq_self_iff.mpr (unnoticed machine present)
          rw [rejected.after_eq keyed present, same, Dict.insert_eq_self present]

/-- The calls of a run that were not rejected. -/
def heeded (setup : Setup) : List Call → Authenticator → List Call
  | [], _ => []
  | call :: rest, auth =>
      if call.Rejected setup auth then heeded setup rest (call.after setup auth)
      else call :: heeded setup rest (call.after setup auth)

def afterAll (setup : Setup) (calls : List Call) (auth : Authenticator) : Authenticator :=
  calls.foldl (fun auth call => call.after setup auth) auth

/-- Rejected calls are not noticed. -/
def Discreet (setup : Setup) (auth : Authenticator) (call : Call) : Prop :=
  call.Rejected setup auth → call.Unnoticed auth

instance (auth : Authenticator) (call : Call) : Decidable (Discreet setup auth call) :=
  inferInstanceAs (Decidable (_ → _))

theorem afterAll_heeded {calls : List Call} (keyed : Keyed auth)
    (discreet : Reaches.Permitted (after setup) (Discreet setup) auth calls) :
    afterAll setup (heeded setup calls auth) auth = afterAll setup calls auth := by
  induction calls generalizing auth with
  | nil => rfl
  | cons call rest later =>
      have behind := later (after_keyed call keyed) discreet.2
      rw [heeded]
      split
      · rename_i rejected
        have same := Rejected.after_eq_self keyed rejected (discreet.1 rejected)
        rw [same] at behind ⊢
        rw [behind, afterAll, afterAll, List.foldl_cons, same]
      · exact behind

/-- In every state that is reached from one without machines, a rejected call
leaves its machine as it was exactly if what its handler wrote before the assertion was
there already; and a run in which all rejected calls are like that ends as the run of
the other calls does. -/
theorem rejected_unnoticed (empty : start.stateMachines = Dict.empty) :
    (∀ auth, Reaches (after setup) (fun _ _ => True) start auth →
      ∀ srcMac notice now machine, auth.stateMachines.get? srcMac = some machine →
        (notify srcMac notice now).Rejected setup auth →
        (((notify srcMac notice now).after setup auth).stateMachines.get? srcMac =
            some machine ↔
          machine.Unnoticed notice)) ∧
      ∀ calls, Reaches.Permitted (after setup) (Discreet setup) start calls →
        afterAll setup (heeded setup calls start) start = afterAll setup calls start := by
  have begun : Keyed start := by
    intro srcMac machine present
    rw [empty] at present
    cases present
  constructor
  · intro auth reached srcMac notice now machine present rejected
    have keyed : Keyed auth :=
      reached.invariant Keyed begun fun _ call keyed _ => after_keyed call keyed
    rw [rejected.after_eq keyed present]
    simp [AuthStateMachine.touched_eq_self_iff]
  · intro calls discreet
    exact afterAll_heeded begun discreet

end Call

namespace Sample

/-- An authenticator that knows the address of its port. -/
def listening : Authenticator := { begun with authenticatorMac := some setup.eapAddress }

/-- A conversation up to the first challenge of the server, which has a State. -/
def challenged : List Call :=
  [.create supplicant 10, .notify supplicant .eapolStart 10,
    .notify supplicant (.eapMessage (.eap none (.identity 2 255 [117, 115, 101, 114]))) 11,
    .notify supplicant (.radiusResponse (some (.eap none (.md5Challenge 1 1 [7] [])))
      (some [1]) .accessChallenge) 12]

/-- A response to an earlier transmission of the request, with another State. -/
def lateChallenge : Notice :=
  .radiusResponse (some (.eap none (.md5Challenge 1 2 [8] []))) (some [2]) .accessChallenge

/-- The machine after the first challenge. -/
def waiting : AuthStateMachine where
  srcMac := supplicant
  state := .supplicant
  identity := some [117, 115, 101, 114]
  authenticationMac := some setup.eapAddress
  radiusState := some [1]
  currentTimeout := some 21
  retry := .eapSend (some (.eap none (.md5Challenge 1 1 [7] [])))
  currentRetries := 0

theorem challenged_reached :
    Reaches (Call.after setup) (fun _ _ => True) listening
      (Call.afterAll setup challenged listening) :=
  Reaches.foldl (fun _ _ => trivial) challenged

theorem challenged_waiting :
    (Call.afterAll setup challenged listening).stateMachines.get? supplicant = some waiting := by
  decide +kernel

/-- Another EAPOL start is rejected and not noticed; the late challenge is noticed. -/
theorem challenged_unnoticed :
    (((Call.notify supplicant lateChallenge 13).after setup
          (Call.afterAll setup challenged listening)).stateMachines.get? supplicant =
        some waiting ↔ waiting.Unnoticed lateChallenge) ∧
      Call.afterAll setup
          (Call.heeded setup (challenged ++ [.notify supplicant .eapolStart 13]) listening)
          listening =
        Call.afterAll setup (challenged ++ [.notify supplicant .eapolStart 13]) listening := by
  have unnoticed := @Call.rejected_unnoticed setup listening rfl
  constructor
  · exact unnoticed.1 _ challenged_reached _ _ _ _ challenged_waiting (by decide +kernel)
  · exact unnoticed.2 _ (by decide +kernel)

/-- The State of the late challenge stays in the machine that rejected it. -/
theorem late_state_kept :
    ¬ ∀ (setup : Setup) (start auth : Authenticator), start.stateMachines = Dict.empty →
      Reaches (Call.after setup) (fun _ _ => True) start auth →
      ∀ srcMac notice now machine, auth.stateMachines.get? srcMac = some machine →
        (Call.notify srcMac notice now).Rejected setup auth →
        ((Call.notify srcMac notice now).after setup auth).stateMachines.get? srcMac =
          some machine := by
  intro always
  have kept := always setup listening _ rfl challenged_reached supplicant lateChallenge 13 waiting
    challenged_waiting (by decide +kernel)
  have replaced : ((Call.notify supplicant lateChallenge 13).after setup
      (Call.afterAll setup challenged listening)).stateMachines.get? supplicant =
        some { waiting with radiusState := some [2] } := by
    decide +kernel
  rw [replaced] at kept
  cases kept

end Sample

end Daq.Dot1x
