import Daq.Dot1x.Attributes
import Daq.Dot1x.Verdict

namespace Daq.Dot1x

open Exec Fallible

/-! Which inputs the three loops survive. -/

/-! Encoding a request. -/

/-- A text or string that can be made an attribute. -/
def Encodable (bytes : Bytes) : Prop := 1 ≤ bytes.length ∧ bytes.length ≤ 253

/-- An attribute that takes at most `room` bytes. -/
structure Fits (attr : Attribute) (room : Nat) : Prop where
  sized : attr.WellSized
  short : attr.fullLength ≤ room

theorem createString_fits {type : AttributeType} {bytes : Bytes} (encodable : Encodable bytes)
    (kind : type.dataType = .text ∨ type.dataType = .string) :
    ∃ attr, Attribute.createString type bytes = .ok attr ∧ Fits attr 255 := by
  have valid : type.dataType.isValidLength bytes = .ok () := by
    unfold DataType.isValidLength
    rw [if_neg]
    rcases kind with text | string
    · rw [text]
      exact fun wrong => wrong.elim (Nat.not_lt.mpr encodable.1) (Nat.not_lt.mpr encodable.2)
    · rw [string]
      exact fun wrong => wrong.elim (Nat.not_lt.mpr encodable.1) (Nat.not_lt.mpr encodable.2)
  have sized : (Attribute.mk type bytes).WellSized := by
    rcases kind with text | string
    · intro _
      simp only [text]
      exact encodable
    · intro _
      simp only [string]
      exact encodable
  have other : type.dataType ≠ .concat := by
    rcases kind with text | string
    · simp [text]
    · simp [string]
  refine ⟨⟨type, bytes⟩, by rw [Attribute.createString, valid]; rfl, sized, ?_⟩
  rw [sized.fullLength other]
  have bound := encodable.2
  dsimp only
  omega

theorem createNumber_fits {type : AttributeType} {number : Nat} (small : number < 256 ^ 4)
    (kind : type.dataType = .integer ∨ type.dataType = .enum) :
    ∃ attr, Attribute.createNumber type number = .ok attr ∧ Fits attr 255 := by
  refine ⟨⟨type, Bytes.ofNat 4 number⟩, by rw [Attribute.createNumber, if_pos small], ?_, ?_⟩
  · intro _
    rcases kind with integer | enum
    · simp [integer, DataType.minDataLength, DataType.maxDataLength]
    · simp [enum, DataType.minDataLength, DataType.maxDataLength]
  · unfold Attribute.fullLength Attribute.dataLength
    rcases kind with integer | enum
    · simp [integer]
    · simp [enum]

theorem createEapMessage_fits {message : EapMessage} (relayable : Relayable message) :
    ∃ attr, Attribute.createEapMessage message = .ok attr ∧ Fits attr 5000 := by
  obtain ⟨version, packetType, data, packed, bound⟩ := relayable
  refine ⟨⟨.eapMessage, data⟩, by rw [Attribute.createEapMessage, packed]; rfl,
    fun other => absurd rfl other, ?_⟩
  rw [Attribute.fullLength_concat rfl, Attribute.pieces]
  dsimp only
  omega

theorem prepareExtra_fits {setup : Setup} (named : Encodable setup.moduleId) :
    ∃ extras, RadiusModule.prepareExtraRadiusAttributes setup = .ok extras ∧
      (∀ attr ∈ extras, attr.WellSized) ∧ RadiusAttributesList.length extras ≤ 765 := by
  obtain ⟨called, calledOk, calledFits⟩ := createString_fits named
    (show AttributeType.dataType .calledStationId = .text ∨ _ from .inl rfl)
  obtain ⟨port, portOk, portFits⟩ := createNumber_fits (show 15 < 256 ^ 4 by decide)
    (show AttributeType.dataType .nasPortType = .integer ∨ _ from .inr rfl)
  obtain ⟨identifier, identifierOk, identifierFits⟩ := createString_fits named
    (show AttributeType.dataType .nasIdentifier = .text ∨ _ from .inl rfl)
  refine ⟨[called, port, identifier], ?_, ?_, ?_⟩
  · rw [RadiusModule.prepareExtraRadiusAttributes, calledOk, ok_bind, portOk, ok_bind,
      identifierOk]
    rfl
  · simp [calledFits.sized, portFits.sized, identifierFits.sized]
  · have first := calledFits.short
    have second := portFits.short
    have third := identifierFits.short
    simp only [RadiusAttributesList.length_cons, RadiusAttributesList.length_nil]
    omega

theorem text_encodable (address : Address) : Encodable (Address.text address) := by
  obtain ⟨octets, six⟩ := address
  match octets, six with
  | [a, b, c, d, e, f], six =>
      have seventeen : (Address.text ⟨[a, b, c, d, e, f], six⟩).length = 17 := rfl
      exact ⟨by omega, by omega⟩

theorem createWhen_fits {wanted : Prop} [Decidable wanted] {create : Except Raised Attribute}
    (fits : wanted → ∃ attr, create = .ok attr ∧ Fits attr 255) :
    ∃ attributes, MessagePacker.createWhen wanted create = .ok attributes ∧
      (∀ attr ∈ attributes, attr.WellSized) ∧ RadiusAttributesList.length attributes ≤ 255 := by
  unfold MessagePacker.createWhen
  split
  · rename_i yes
    obtain ⟨attr, created, fit⟩ := fits yes
    refine ⟨[attr], by rw [created]; rfl, by simpa using fit.sized, ?_⟩
    simpa using fit.short
  · exact ⟨[], rfl, by simp, by simp⟩

/-- The information about a packet from which a request can be encoded. -/
structure WellFormed (info : RadiusPacketInfo) : Prop where
  relayable : Relayable info.payload
  state : (info.state.getD []).length ≤ 253
  port : info.portId < 256 ^ 4

theorem build_eq_ok {hashes : Hashes} {packet : RadiusPacket} {secret packed : Bytes}
    (done : packet.pack = .ok packed) : ∃ built, packet.build hashes secret = .ok built := by
  unfold RadiusPacket.build
  rw [done, ok_bind]
  split
  · exact ⟨_, rfl⟩
  · dsimp only
    split
    · exact ⟨_, rfl⟩
    · exact ⟨_, rfl⟩

theorem radiusPack_eq_ok {setup : Setup} {info : RadiusPacketInfo} (wellFormed : WellFormed info)
    {name : Bytes} (named : info.identity = some name) (encodable : Encodable name)
    {extras : List Attribute} (sized : ∀ attr ∈ extras, attr.WellSized)
    (short : RadiusAttributesList.length extras ≤ 765) (packetId : UInt8) (nonce : Bytes) :
    ∃ packed, MessagePacker.radiusPack setup.hashes info.payload info.srcMac info.identity
      packetId nonce info.state setup.radiusSecret info.portId extras = .ok packed := by
  obtain ⟨user, userOk, userFits⟩ := createString_fits encodable
    (show AttributeType.dataType .userName = .text ∨ _ from .inl rfl)
  obtain ⟨calling, callingOk, callingFits⟩ := createString_fits (text_encodable info.srcMac)
    (show AttributeType.dataType .callingStationId = .text ∨ _ from .inl rfl)
  obtain ⟨port, portOk, portSized, portShort⟩ := createWhen_fits
    (show info.portId ≠ 0 → _ from fun _ => createNumber_fits wellFormed.port
      (show AttributeType.dataType .nasPort = .integer ∨ _ from .inl rfl))
  obtain ⟨message, messageOk, messageFits⟩ := createEapMessage_fits wellFormed.relayable
  obtain ⟨state, stateOk, stateSized, stateShort⟩ := createWhen_fits
    (show info.state.getD [] ≠ [] → _ from fun present => createString_fits
      (show Encodable (info.state.getD []) from
        ⟨List.length_pos_iff.mpr present, wellFormed.state⟩)
      (show AttributeType.dataType .state = .text ∨ _ from .inr rfl))
  obtain ⟨signature, signatureOk, signatureFits⟩ := createString_fits
    (show Encodable (List.replicate 16 0) from ⟨by decide, by decide⟩)
    (show AttributeType.dataType .messageAuthenticator = .text ∨ _ from .inr rfl)
  have packs := @RadiusPacket.pack_succeeds
    { packetType := .accessRequest, packetId, authenticator := nonce,
      attributes := [user, calling] ++ port ++ extras ++ [message] ++ state ++ [signature] }
    (by
      simp only [List.mem_append, List.mem_cons, List.not_mem_nil, or_false]
      rintro attr ((((((rfl | rfl) | inPort) | inExtras) | rfl) | inState) | rfl)
      · exact userFits.sized
      · exact callingFits.sized
      · exact portSized attr inPort
      · exact sized attr inExtras
      · exact messageFits.sized
      · exact stateSized attr inState
      · exact signatureFits.sized)
    (by
      have first := userFits.short
      have second := callingFits.short
      have third := messageFits.short
      have fourth := signatureFits.short
      simp only [RadiusAttributesList.length_append, RadiusAttributesList.length_cons,
        RadiusAttributesList.length_nil]
      omega)
  obtain ⟨packed, done⟩ := packs
  obtain ⟨built, returned⟩ := @build_eq_ok setup.hashes _ setup.radiusSecret _ done
  refine ⟨built, ?_⟩
  rw [MessagePacker.radiusPack, named]
  simp only [Option.mapM_some, userOk, callingOk, portOk, messageOk, stateOk, signatureOk, ok_bind]
  exact returned

/-! What is queued can be encoded. -/

/-- A machine that only asks for requests that can be encoded. -/
structure Fit (machine : AuthStateMachine) : Prop where
  retry : ∀ info, machine.retry = .radiusSend info → WellFormed info
  state : (machine.radiusState.getD []).length ≤ 253

/-- Machines and queue are in order and the address of the port is known. -/
structure Armed (auth : Authenticator) : Prop where
  machines : ∀ srcMac machine, auth.stateMachines.get? srcMac = some machine → Fit machine
  queue : ∀ info, some info ∈ auth.radiusQueue → WellFormed info
  port : auth.authenticatorMac ≠ none

def armedFrame : Frame Authenticator := Frame.invariant Armed

theorem Fit.await_eap {machine : AuthStateMachine} (fit : Fit machine) (timeout : Nat)
    (message : Option EapMessage) : Fit (machine.await timeout (.eapSend message)) :=
  ⟨(fun _ wrong => nomatch wrong), fit.state⟩

theorem Fit.await_radius {machine : AuthStateMachine} (fit : Fit machine) (timeout : Nat)
    {info : RadiusPacketInfo} (wellFormed : WellFormed info) :
    Fit (machine.await timeout (.radiusSend info)) := by
  refine ⟨fun other same => ?_, fit.state⟩
  cases same
  exact wellFormed

theorem Fit.noteIdentity {machine : AuthStateMachine} (fit : Fit machine)
    (message : EapMessage) : Fit (machine.noteIdentity message) := by
  unfold AuthStateMachine.noteIdentity
  split
  · split
    · exact ⟨fit.retry, fit.state⟩
    · exact fit
  · exact fit

theorem Fit.stateTransition {machine moved : AuthStateMachine} (fit : Fit machine)
    {target expected : AuthState} (done : machine.stateTransition target expected = .ok moved) :
    Fit moved := by
  unfold AuthStateMachine.stateTransition at done
  split at done <;> cases done
  exact ⟨fit.retry, fit.state⟩

theorem portIdToInt_lt {authMac : Option Address} {portId : Nat}
    (done : portIdToInt authMac = .ok portId) : portId < 256 ^ 4 := by
  unfold portIdToInt at done
  split at done <;> cases done
  rename_i address
  obtain ⟨octets, six⟩ := address
  match octets, six with
  | [_, _, _, d, e, f], _ =>
      have high := d.toNat_lt
      have middle := e.toNat_lt
      have low := f.toNat_lt
      simp only [List.drop_succ_cons, List.drop_zero, Bytes.toNat, List.foldl_cons,
        List.foldl_nil]
      omega

theorem within_ofExcept_bind {α β : Type} {frame : Frame Authenticator}
    {outcome : Except Raised α} {next : α → Handler β}
    (tail : ∀ value, outcome = .ok value → (next value).Within frame) :
    ((.ofExcept outcome : Handler α) >>= next).Within frame := by
  cases outcome with
  | error raised => exact fun auth => frame.refl auth
  | ok value => exact tail value rfl

namespace Supply

theorem store_within (srcMac : Address) {machine : AuthStateMachine} (fit : Fit machine) :
    (Authenticator.store srcMac machine).Within armedFrame := by
  refine within_modify fun auth armed => ⟨?_, armed.queue, armed.port⟩
  intro other found present
  rw [Dict.get?_insert] at present
  split at present
  · cases present
    exact fit
  · exact armed.machines other found present

theorem sendEapResponse_within (srcMac : Address) (message : Option EapMessage) :
    (Authenticator.sendEapResponse srcMac message).Within armedFrame := by
  have sent : ∀ data, (EapModule.sendEapMessage srcMac data).Within armedFrame :=
    fun data => within_bind (within_read _) fun _ => within_bind (within_ofExcept _) fun _ =>
      within_modify fun _ armed => ⟨armed.machines, armed.queue, armed.port⟩
  cases message with
  | none => exact sent _
  | some data => exact sent data

theorem sendRadiusPacket_within {info : RadiusPacketInfo} (wellFormed : WellFormed info) :
    (RadiusModule.sendRadiusPacket info).Within armedFrame := by
  refine within_modify fun auth armed => ⟨armed.machines, ?_, armed.port⟩
  intro other queued
  rcases List.mem_append.mp queued with old | new
  · exact armed.queue other old
  · cases List.mem_singleton.mp new
    exact wellFormed

theorem mem_append_none {queue : List (Option RadiusPacketInfo)} {info : RadiusPacketInfo}
    (queued : some info ∈ queue ++ [none]) : some info ∈ queue := by
  simpa using queued

theorem processTestResult_within (srcMac : Option Address) (isSuccess : Bool) :
    (Authenticator.processTestResult srcMac isSuccess).Within armedFrame := by
  unfold Authenticator.processTestResult Authenticator.recordResult
    Authenticator.endAuthentication RadiusModule.shutDownModule EapModule.shutDownModule
  refine within_bind (within_whenSome _ fun present => ?_) fun _ => ?_
  · refine within_bind (within_modify fun _ armed => ⟨armed.machines, armed.queue, armed.port⟩)
      fun _ => within_bind (within_read _) fun _ => within_bind (within_require _) fun _ =>
        within_modify fun auth armed => ⟨?_, armed.queue, armed.port⟩
    intro other machine found
    rw [Dict.get?_erase] at found
    split at found
    · cases found
    · exact armed.machines other machine found
  · refine within_bind (within_modify fun _ armed => ⟨armed.machines, armed.queue, armed.port⟩)
      fun _ => within_bind ?_ fun _ =>
        within_modify fun _ armed => ⟨armed.machines, armed.queue, armed.port⟩
    exact within_bind (within_modify fun _ armed =>
        ⟨armed.machines, fun info queued => armed.queue info (mem_append_none queued),
          armed.port⟩) fun _ =>
      within_bind (within_read _) fun _ => within_bind (within_require _) fun _ =>
        within_modify fun _ armed => ⟨armed.machines, armed.queue, armed.port⟩

variable (setup : Setup) (now : Nat)

theorem receivedEapolStart_within {machine : AuthStateMachine} (fit : Fit machine) :
    (machine.receivedEapolStart setup now).Within armedFrame :=
  within_ofExcept_bind fun _ done =>
    within_bind (store_within _ ((fit.stateTransition done).await_eap _ _)) fun _ =>
      sendEapResponse_within _ _

theorem receivedEapRequest_within {machine : AuthStateMachine} (fit : Fit machine)
    {message : EapMessage} (relayable : Relayable message) :
    (machine.receivedEapRequest setup now message).Within armedFrame := by
  have named := fit.noteIdentity message
  refine within_bind (store_within _ named) fun _ => within_ofExcept_bind fun moved done =>
    within_bind (store_within _ (named.stateTransition done)) fun _ =>
      within_ofExcept_bind fun portId port => ?_
  have movedFit := named.stateTransition done
  have wellFormed : WellFormed
      { payload := message, srcMac := moved.srcMac, identity := moved.identity,
        state := moved.radiusState, portId } :=
    ⟨relayable, movedFit.state, portIdToInt_lt port⟩
  exact within_bind (store_within _ (movedFit.await_radius _ wellFormed)) fun _ =>
    sendRadiusPacket_within wellFormed

theorem receivedRadiusResponse_within {machine : AuthStateMachine} (fit : Fit machine)
    (payload : Option EapMessage) {radiusState : Option Bytes}
    (short : (radiusState.getD []).length ≤ 253) (packetType : PacketType) :
    (machine.receivedRadiusResponse setup now payload radiusState packetType).Within
      armedFrame := by
  have told : Fit { machine with radiusState } := ⟨fit.retry, short⟩
  unfold AuthStateMachine.receivedRadiusResponse
  refine within_bind (store_within _ told) fun _ => ?_
  cases packetType with
  | accessReject | accessAccept =>
      exact within_ofExcept_bind fun _ done =>
        within_bind (store_within _ (told.stateTransition done)) fun _ =>
          within_bind (processTestResult_within _ _) fun _ => sendEapResponse_within _ _
  | accessRequest | accessChallenge =>
      exact within_ofExcept_bind fun _ done =>
        within_bind (store_within _ ((told.stateTransition done).await_eap _ _)) fun _ =>
          sendEapResponse_within _ _

theorem handleTimer_within {machine : AuthStateMachine} (fit : Fit machine) :
    (machine.handleTimer setup now).Within armedFrame := by
  unfold AuthStateMachine.handleTimer
  refine within_when (within_ite ?_ ?_)
  · refine within_bind (store_within _ ⟨fit.retry, fit.state⟩) fun _ => ?_
    unfold AuthStateMachine.runRetry
    cases retry : machine.retry with
    | eapSend message => exact sendEapResponse_within _ _
    | radiusSend info => exact sendRadiusPacket_within (fit.retry info retry)
  · exact within_bind (store_within _ ⟨fit.retry, fit.state⟩) fun _ =>
      within_bind (processTestResult_within _ _) fun _ => sendEapResponse_within _ _

theorem sweep_armed (size : Nat) :
    ∀ (addresses : List Address) {auth : Authenticator}, Armed auth →
      (Authenticator.sweep setup now size addresses).Holds auth fun _ reached => Armed reached
  | [], _, armed => by
      unfold Authenticator.sweep
      simp only [holds_bind, holds_read, then_ok, holds_require]
      exact ⟨fun _ => armed, fun _ => armed⟩
  | srcMac :: rest, auth, armed => by
      unfold Authenticator.sweep
      simp only [holds_bind, holds_read, then_ok, holds_require]
      refine ⟨fun _ => ?_, fun _ => armed⟩
      rw [holds_whenSome]
      refine ⟨fun _ => sweep_armed size rest armed, fun machine found => ?_⟩
      have visited := handleTimer_within setup now (armed.machines srcMac machine found) auth
      rw [← holds_bind]
      exact Holds.bind (show (machine.handleTimer setup now).Holds auth
          (fun _ reached => Armed reached) from visited armed)
        (fun _ _ kept => kept) fun _ _ kept => sweep_armed size rest kept

end Supply

/-- In every state: as long as the address of the port is not known there are no
machines. -/
structure Supplied (auth : Authenticator) : Prop where
  machines : ∀ srcMac machine, auth.stateMachines.get? srcMac = some machine → Fit machine
  queue : ∀ info, some info ∈ auth.radiusQueue → WellFormed info
  port : ∀ srcMac machine, auth.stateMachines.get? srcMac = some machine →
    auth.authenticatorMac ≠ none

theorem Armed.supplied {auth : Authenticator} (armed : Armed auth) : Supplied auth :=
  ⟨armed.machines, armed.queue, fun _ _ _ => armed.port⟩

theorem Supplied.armed {auth : Authenticator} (supplied : Supplied auth) {srcMac : Address}
    {machine : AuthStateMachine} (present : auth.stateMachines.get? srcMac = some machine) :
    Armed auth :=
  ⟨supplied.machines, supplied.queue, supplied.port srcMac machine present⟩

variable {setup : Setup} {auth : Authenticator}

theorem initialized_fit (srcMac : Address) (authMac : Option Address) (timeout : Nat) :
    Fit (AuthStateMachine.initialized srcMac authMac timeout) :=
  ⟨(fun _ wrong => nomatch wrong), Nat.zero_le _⟩

theorem received_length (packedMessage : Bytes) :
    (Authenticator.received packedMessage).length ≤ 4096 := by
  rw [Authenticator.received, List.length_take]
  exact Nat.min_le_left _ _

theorem receiveEapMessage_supplied (supplied : Supplied auth) (now : Nat) (packedMessage : Bytes) :
    (EapModule.receiveEapMessage setup now (Authenticator.received packedMessage)).Holds auth
      fun _ reached => Supplied reached := by
  unfold EapModule.receiveEapMessage
  rw [holds_when]
  refine ⟨fun _ => ?_, fun _ => supplied⟩
  split
  · exact supplied
  · exact supplied
  · rename_i message dstMac parsed
    have relayable := ethernetParse_relayable (received_length packedMessage) parsed
    rw [holds_bind, holds_when]
    constructor
    · intro isStart
      rw [holds_modify, then_ok, holds_whenSome]
      have armed : Armed { auth with authenticatorMac := some setup.eapAddress } :=
        ⟨supplied.machines, supplied.queue, Option.some_ne_none _⟩
      refine ⟨fun _ => armed.supplied, fun srcMac _ => ?_⟩
      unfold Authenticator.receivedEapRequest
      simp only [isStart, if_true, holds_bind, holds_get, then_ok]
      rw [holds_when]
      refine ⟨fun _ => ?_, fun _ => armed.supplied⟩
      have started : (Authenticator.startMachine setup now srcMac).Within armedFrame :=
        within_bind (within_read _) fun _ =>
          within_bind (Supply.store_within _ (initialized_fit _ _ _)) fun _ =>
            Supply.receivedEapolStart_within setup now (initialized_fit _ _ _)
      exact (started _ armed).supplied
    · intro notStart
      rw [then_ok, holds_whenSome]
      refine ⟨fun _ => supplied, fun srcMac _ => ?_⟩
      unfold Authenticator.receivedEapRequest
      rw [if_neg notStart, holds_bind]
      refine machineOf_holds (fun machine found => ?_) fun _ => supplied
      have armed := supplied.armed found
      exact (Supply.receivedEapRequest_within setup now (armed.machines srcMac machine found)
        relayable auth armed).supplied

theorem readAttributes_short {attributes : List Attribute}
    {found result : Authenticator.RadiusPacketAttributes}
    (sized : ∀ attr ∈ attributes, attr.WellSized) (short : (found.state.getD []).length ≤ 253)
    (done : RadiusModule.readAttributes attributes found = .ok result) :
    (result.state.getD []).length ≤ 253 := by
  induction attributes generalizing found with
  | nil =>
      cases done
      exact short
  | cons attr rest shorter =>
      have restSized : ∀ member ∈ rest, member.WellSized :=
        fun member inside => sized member (List.mem_cons_of_mem _ inside)
      unfold RadiusModule.readAttributes at done
      split_ifs at done with isEap isState
      · obtain ⟨message, _, later⟩ := bind_eq_ok_iff.mp done
        exact @shorter { found with eapMessage := some message } restSized short later
      · refine @shorter { found with state := some attr.bytesData } restSized ?_ done
        exact (sized attr List.mem_cons_self).length_le (by rw [isState]; decide)
      · exact shorter restSized short done

theorem readAttributes_relayable {attributes : List Attribute}
    {found result : Authenticator.RadiusPacketAttributes}
    (short : ∀ attr ∈ attributes, attr.bytesData.length ≤ 4096)
    (relayable : ∀ message, found.eapMessage = some message → Relayable message)
    (done : RadiusModule.readAttributes attributes found = .ok result) :
    ∀ message, result.eapMessage = some message → Relayable message := by
  induction attributes generalizing found with
  | nil =>
      cases done
      exact relayable
  | cons attr rest shorter =>
      have restShort : ∀ member ∈ rest, member.bytesData.length ≤ 4096 :=
        fun member inside => short member (List.mem_cons_of_mem _ inside)
      unfold RadiusModule.readAttributes at done
      split_ifs at done with isEap isState
      · obtain ⟨message, parsed, later⟩ := bind_eq_ok_iff.mp done
        refine @shorter { found with eapMessage := some message } restShort ?_ later
        rintro other ⟨⟩
        exact eapParse_relayable (short attr List.mem_cons_self) parsed
      · exact @shorter { found with state := some attr.bytesData } restShort relayable done
      · exact shorter restShort relayable done

theorem passedOn_fit {packedMessage : Bytes} {callback : RadiusModule.Callback}
    (decoded : RadiusModule.decodeCallback setup auth (Authenticator.received packedMessage) =
      .ok (some callback)) :
    (callback.attributes.state.getD []).length ≤ 253 ∧
      ∀ message, callback.attributes.eapMessage = some message → Relayable message := by
  obtain ⟨packet, request, port, passed⟩ := decodeCallback_eq_some_iff.mp decoded
  obtain ⟨sized, bound⟩ := Radius.readPacket_sound passed.accepted.read
  have whole := received_length packedMessage
  refine ⟨readAttributes_short sized (Nat.zero_le _) passed.attributes,
    readAttributes_relayable (fun attr member => ?_) (fun _ wrong => by cases wrong)
      passed.attributes⟩
  have part := RadiusAttributesList.fullLength_le_length member
  have inside := Attribute.length_le_fullLength (sized attr member)
  omega

theorem receiveRadiusMessage_supplied (supplied : Supplied auth) (now : Nat)
    (packedMessage : Bytes) :
    (RadiusModule.receiveRadiusMessage setup now (Authenticator.received packedMessage)).Holds auth
      fun _ reached => Supplied reached := by
  unfold RadiusModule.receiveRadiusMessage
  rw [holds_bind, holds_get, then_ok, holds_bind, holds_ofExcept]
  cases decoded : RadiusModule.decodeCallback setup auth
      (Authenticator.received packedMessage) with
  | error raised => exact supplied
  | ok outcome =>
      rw [then_ok, holds_whenSome]
      refine ⟨fun _ => supplied, ?_⟩
      rintro callback rfl
      obtain ⟨short, _⟩ := passedOn_fit decoded
      unfold Authenticator.receivedRadiusResponse
      rw [holds_bind]
      refine machineOf_holds (fun machine found => ?_) fun _ => supplied
      have armed := supplied.armed found
      exact (Supply.receivedRadiusResponse_within setup now
        (armed.machines callback.srcMac machine found) callback.attributes.eapMessage short
        callback.packetType auth armed).supplied

theorem handleSmTimeout_supplied (supplied : Supplied auth) (now : Nat) :
    (Authenticator.handleSmTimeout setup now).Holds auth fun _ reached => Supplied reached := by
  unfold Authenticator.handleSmTimeout
  rw [holds_bind, holds_get, then_ok, holds_ite]
  constructor
  · intro _
    rw [holds_when]
    refine ⟨fun _ => ?_, fun _ => supplied⟩
    unfold Authenticator.processTestResult Authenticator.endAuthentication
      RadiusModule.shutDownModule EapModule.shutDownModule
    simp only [whenSome, holds_bind, holds_pure, then_ok, holds_modify, holds_read, holds_require]
    have queue : ∀ info, some info ∈ auth.radiusQueue ++ [none] → WellFormed info :=
      fun info queued => supplied.queue info (Supply.mem_append_none queued)
    exact ⟨fun _ => ⟨supplied.machines, queue, supplied.port⟩,
      fun _ => ⟨supplied.machines, queue, supplied.port⟩⟩
  · intro nonempty
    obtain ⟨srcMac, present⟩ : ∃ srcMac, auth.stateMachines.get? srcMac ≠ none := by
      by_contra none
      simp only [ne_eq, not_exists, not_not] at none
      exact nonempty (Dict.size_eq_zero_iff.mpr none)
    obtain ⟨machine, found⟩ := Option.ne_none_iff_exists'.mp present
    exact (Supply.sweep_armed setup now _ _ (supplied.armed found)).mono
      fun _ _ armed => armed.supplied

theorem sendRadiusMessage_supplied (supplied : Supplied auth) (nonce : Bytes)
    (outbound : Option RadiusPacketInfo) :
    (RadiusModule.sendRadiusMessage setup nonce outbound).Holds auth
      fun _ reached => Supplied reached := by
  have kept : (RadiusModule.sendRadiusMessage setup nonce outbound).Within
      (Frame.invariant Supplied) := by
    unfold RadiusModule.sendRadiusMessage RadiusModule.encodeRadiusResponse
      RadiusModule.socketSend
    refine within_whenSome _ fun info => within_bind ?_ fun packed => ?_
    · exact within_bind (within_read _) fun _ => within_bind (within_modify fun _ before =>
        ⟨before.machines, before.queue, before.port⟩) fun _ =>
          within_bind (within_ofExcept _) fun _ => within_ofExcept _
    · exact within_bind (within_read _) fun _ => within_bind (within_require _) fun _ =>
        within_modify fun _ before => ⟨before.machines, before.queue, before.port⟩
  exact kept auth supplied

theorem step_supplied (supplied : Supplied auth) (event : Event) :
    Supplied (Authenticator.step setup event auth) := by
  cases event with
  | frame packedMessage now =>
      rw [Authenticator.step, Authenticator.takeFrame]
      split
      · have after : Supplied ((EapModule.receiveEapMessage setup now
            (Authenticator.received packedMessage)).run auth).2 :=
          receiveEapMessage_supplied supplied now packedMessage
        exact ⟨after.machines, after.queue, after.port⟩
      · exact supplied
  | datagram packedMessage now =>
      rw [Authenticator.step, Authenticator.takeDatagram]
      split
      · have after : Supplied ((RadiusModule.receiveRadiusMessage setup now
            (Authenticator.received packedMessage)).run auth).2 :=
          receiveRadiusMessage_supplied supplied now packedMessage
        exact ⟨after.machines, after.queue, after.port⟩
      · exact supplied
  | tick now =>
      rw [Authenticator.step, Authenticator.takeTick]
      split
      · exact handleSmTimeout_supplied supplied now
      · exact supplied
  | send nonce =>
      rw [Authenticator.step, Authenticator.takePacket]
      split
      · exact supplied
      · rename_i outbound rest queue
        split
        · have popped : Supplied { auth with radiusQueue := rest } :=
            ⟨supplied.machines,
              fun info queued => supplied.queue info (queue ▸ List.mem_cons_of_mem _ queued),
              supplied.port⟩
          have after : Supplied ((RadiusModule.sendRadiusMessage setup nonce.1 outbound).run
              { auth with radiusQueue := rest }).2 :=
            sendRadiusMessage_supplied popped nonce.1 outbound
          exact ⟨after.machines, after.queue, after.port⟩
        · exact supplied

/-! What each loop survives. -/

def Returns {α : Type} (program : Handler α) (auth : Authenticator) : Prop :=
  program.Holds auth fun outcome _ => ∃ value, outcome = .ok value

theorem sendEapMessage_returns {srcMac : Address} {data : EapMessage}
    (relayable : Relayable data) (port : auth.authenticatorMac ≠ none) :
    Returns (EapModule.sendEapMessage srcMac data) auth := by
  obtain ⟨address, known⟩ := Option.ne_none_iff_exists'.mp port
  obtain ⟨packed, done⟩ := ethernetPack_eq_ok relayable address srcMac
  unfold Returns EapModule.sendEapMessage EapModule.sendPackedEapMessage
  simp only [holds_bind, holds_read, then_ok, known, holds_ofExcept, done, holds_modify]
  exact ⟨(), trivial⟩

theorem sendEapResponse_returns {srcMac : Address} {message : Option EapMessage}
    (relayable : ∀ data, message = some data → Relayable data)
    (port : auth.authenticatorMac ≠ none) :
    Returns (Authenticator.sendEapResponse srcMac message) auth := by
  cases message with
  | none => exact sendEapMessage_returns ⟨1, 0, _, rfl, by decide⟩ port
  | some data => exact sendEapMessage_returns (relayable data rfl) port

theorem failureMessage_relayable (srcMac : Address) :
    Relayable (AuthStateMachine.failureMessage srcMac) :=
  ⟨1, 0, _, rfl, by decide⟩

/-- A frame is an EAPOL start, or comes from a machine that waits for the supplicant,
if it can be parsed at all. -/
def FrameServed (auth : Authenticator) (packedMessage : Bytes) : Prop :=
  ∀ message dstMac, MessageParser.ethernetParse packedMessage = .ok (message, dstMac) →
    EapModule.isEapolStart message = true ∨
      ∃ srcMac machine, EapModule.srcMacOf message = some srcMac ∧
        auth.stateMachines.get? srcMac = some machine ∧ machine.state = .supplicant

theorem startMachine_returns (now : Nat) {srcMac : Address}
    (port : auth.authenticatorMac ≠ none) :
    Returns (Authenticator.startMachine setup now srcMac) auth := by
  unfold Returns Authenticator.startMachine AuthStateMachine.receivedEapolStart
    Authenticator.store
  simp only [holds_bind, holds_read, then_ok, holds_modify, holds_ofExcept,
    AuthStateMachine.stateTransition, AuthStateMachine.initialized, if_true]
  exact sendEapResponse_returns (fun _ wrong => by cases wrong) port

theorem receivedEapRequest_returns (now : Nat) {machine : AuthStateMachine}
    (expected : machine.state = .supplicant) (ported : machine.authenticationMac ≠ none)
    (message : EapMessage) :
    Returns (machine.receivedEapRequest setup now message) auth := by
  obtain ⟨_, state, _, _, authMac⟩ := noteIdentity_annotates machine message
  obtain ⟨port, known⟩ := Option.ne_none_iff_exists'.mp ported
  unfold Returns AuthStateMachine.receivedEapRequest Authenticator.store
    RadiusModule.sendRadiusPacket
  simp only [holds_bind, then_ok, holds_modify, holds_ofExcept, AuthStateMachine.stateTransition,
    state, expected, if_true, authMac, known, portIdToInt]
  exact ⟨(), trivial⟩

theorem receiveEapMessage_returns (filed : Filed auth) (now : Nat) {packedMessage : Bytes}
    (served : FrameServed auth packedMessage) :
    Returns (EapModule.receiveEapMessage setup now packedMessage) auth := by
  unfold Returns EapModule.receiveEapMessage
  rw [holds_when]
  refine ⟨fun _ => ?_, fun _ => ⟨(), rfl⟩⟩
  split
  · exact ⟨(), rfl⟩
  · rename_i raised unreported failed
    obtain ⟨error, rfl⟩ := MessageParser.ethernetParse_onlyReports packedMessage raised failed
    exact absurd rfl (unreported error)
  · rename_i message dstMac parsed
    rw [holds_bind, holds_when]
    constructor
    · intro isStart
      rw [holds_modify, then_ok, holds_whenSome]
      refine ⟨fun _ => ⟨(), rfl⟩, fun srcMac _ => ?_⟩
      unfold Authenticator.receivedEapRequest
      simp only [isStart, if_true, holds_bind, holds_get, then_ok]
      rw [holds_when]
      refine ⟨fun _ => ?_, fun _ => ⟨(), rfl⟩⟩
      exact startMachine_returns now (Option.some_ne_none _)
    · intro notStart
      rw [then_ok, holds_whenSome]
      refine ⟨fun _ => ⟨(), rfl⟩, fun srcMac addressed => ?_⟩
      obtain ⟨known, machine, same, found, expected⟩ :=
        (served message dstMac parsed).resolve_left notStart
      cases addressed.symm.trans same
      unfold Authenticator.receivedEapRequest
      rw [if_neg notStart, holds_bind]
      refine machineOf_holds (fun other present => ?_) fun absent => ?_
      · cases found.symm.trans present
        exact receivedEapRequest_returns now expected (filed.ported found) message
      · cases found.symm.trans absent

/-- What has to hold of a packet that is accepted: its EAP-Message can be parsed,
its id leads to a machine that waits for the server, and a verdict comes while the
RADIUS socket is open. -/
structure AnswerServed (auth : Authenticator) (packet : RadiusPacket) : Prop where
  understood : ∃ attributes,
    RadiusModule.readAttributes packet.attributes ⟨none, none⟩ = .ok attributes
  expected : ∃ srcMac port machine,
    auth.packetIdToMac.get? packet.packetId = some (srcMac, port) ∧
      auth.stateMachines.get? srcMac = some machine ∧ machine.state = .radius
  socket : packet.packetType = .accessAccept ∨ packet.packetType = .accessReject →
    auth.radiusSocketOpen = true

/-- A datagram whose attributes come to an end, for which there is a secret when it
has to be checked, and that is served if it is accepted. -/
structure DatagramServed (setup : Setup) (auth : Authenticator) (packedMessage : Bytes) :
    Prop where
  ends : ¬ Radius.Hangs packedMessage
  keyed : ∀ packet request, Radius.readPacket packedMessage = .ok packet →
    Radius.requestAuthenticator packet auth.packetIdToRequestAuthenticator = .ok request →
    setup.radiusSecret ≠ []
  answered : ∀ packet,
    Radius.parse setup.hashes packedMessage setup.radiusSecret
      auth.packetIdToRequestAuthenticator = .ok packet → AnswerServed auth packet

theorem decodeCallback_served {packedMessage : Bytes}
    (served : DatagramServed setup auth (Authenticator.received packedMessage)) :
    RadiusModule.decodeCallback setup auth (Authenticator.received packedMessage) = .ok none ∨
      ∃ packet callback,
        RadiusModule.decodeCallback setup auth (Authenticator.received packedMessage) =
            .ok (some callback) ∧
          callback.packetType = packet.packetType ∧ AnswerServed auth packet ∧
          ∃ machine, auth.stateMachines.get? callback.srcMac = some machine ∧
            machine.state = .radius := by
  have reports := @Radius.parse_onlyReports setup.hashes _ _ _ (received_length packedMessage)
    served.ends served.keyed
  unfold RadiusModule.decodeCallback
  cases parsed : Radius.parse setup.hashes (Authenticator.received packedMessage)
      setup.radiusSecret auth.packetIdToRequestAuthenticator with
  | error raised =>
      obtain ⟨error, rfl⟩ := reports raised parsed
      exact .inl rfl
  | ok packet =>
      have answer := served.answered packet parsed
      obtain ⟨attributes, read⟩ := answer.understood
      obtain ⟨srcMac, port, machine, addressed, found, expected⟩ := answer.expected
      refine .inr ⟨packet, ⟨srcMac, attributes, packet.packetType⟩, ?_, rfl, answer, machine,
        found, expected⟩
      simp only [read, ok_bind, addressed]
      rfl

/-- A verdict is recorded and the modules are shut down; the rest goes on from there. -/
theorem processTestResult_returns {srcMac : Address} {isSuccess : Bool} {rest : Handler Unit}
    (present : (auth.stateMachines.get? srcMac).isSome = true)
    (socket : auth.radiusSocketOpen = true)
    (after : ∀ reached : Authenticator, reached.authenticatorMac = auth.authenticatorMac →
      Returns rest reached) :
    Returns (do Authenticator.processTestResult (some srcMac) isSuccess; rest) auth := by
  unfold Returns Authenticator.processTestResult Authenticator.recordResult
    Authenticator.endAuthentication RadiusModule.shutDownModule EapModule.shutDownModule
  simp only [whenSome, holds_bind, holds_modify, then_ok, holds_read, holds_require, present,
    socket, not_true_eq_false, false_implies, and_true, forall_const]
  exact after _ rfl

theorem receivedRadiusResponse_returns (now : Nat) {machine : AuthStateMachine}
    (expected : machine.state = .radius) {payload : Option EapMessage}
    (relayable : ∀ message, payload = some message → Relayable message)
    (radiusState : Option Bytes) {packetType : PacketType}
    (socket : packetType = .accessAccept ∨ packetType = .accessReject →
      auth.radiusSocketOpen = true)
    (port : auth.authenticatorMac ≠ none) :
    Returns (machine.receivedRadiusResponse setup now payload radiusState packetType) auth := by
  unfold Returns AuthStateMachine.receivedRadiusResponse Authenticator.store
  rw [holds_bind, holds_modify, then_ok]
  cases packetType with
  | accessReject =>
      simp only [AuthStateMachine.stateTransition, expected, if_true]
      rw [holds_bind, holds_ofExcept, then_ok, holds_bind, holds_modify, then_ok]
      refine processTestResult_returns (by simp) (socket (.inr rfl)) fun reached same => ?_
      refine sendEapResponse_returns ?_ (same ▸ port)
      rintro _ ⟨⟩
      exact failureMessage_relayable _
  | accessAccept =>
      simp only [AuthStateMachine.stateTransition, expected, if_true]
      rw [holds_bind, holds_ofExcept, then_ok, holds_bind, holds_modify, then_ok]
      refine processTestResult_returns (by simp) (socket (.inl rfl)) fun reached same => ?_
      exact sendEapResponse_returns relayable (same ▸ port)
  | accessRequest | accessChallenge =>
      simp only [AuthStateMachine.stateTransition, expected, if_true]
      rw [holds_bind, holds_ofExcept, then_ok, holds_bind, holds_modify, then_ok]
      exact sendEapResponse_returns relayable port

theorem receiveRadiusMessage_returns (supplied : Supplied auth) (now : Nat)
    {packedMessage : Bytes}
    (served : DatagramServed setup auth (Authenticator.received packedMessage)) :
    Returns (RadiusModule.receiveRadiusMessage setup now
      (Authenticator.received packedMessage)) auth := by
  unfold Returns RadiusModule.receiveRadiusMessage
  rw [holds_bind, holds_get, then_ok, holds_bind, holds_ofExcept]
  rcases decodeCallback_served served with dropped |
    ⟨packet, callback, decoded, typed, answer, machine, found, expected⟩
  · rw [dropped]
    exact ⟨(), rfl⟩
  · obtain ⟨_, relayable⟩ := passedOn_fit decoded
    rw [decoded, then_ok]
    unfold Authenticator.receivedRadiusResponse
    simp only [whenSome]
    rw [holds_bind]
    refine machineOf_holds (fun other present => ?_) fun absent => ?_
    · cases found.symm.trans present
      exact receivedRadiusResponse_returns now expected relayable _
        (fun verdict => answer.socket (typed ▸ verdict)) (supplied.armed found).port
    · cases found.symm.trans absent

/-- The next packet can be encoded and the RADIUS socket is open. -/
def PacketServed (setup : Setup) (auth : Authenticator) : Prop :=
  ∀ info rest, auth.radiusQueue = some info :: rest →
    (∃ name, info.identity = some name ∧ Encodable name) ∧ Encodable setup.moduleId ∧
      auth.radiusSocketOpen = true

theorem sendRadiusMessage_returns {info : RadiusPacketInfo} (wellFormed : WellFormed info)
    {name : Bytes} (named : info.identity = some name) (encodable : Encodable name)
    (module : Encodable setup.moduleId) (socket : auth.radiusSocketOpen = true) (nonce : Bytes) :
    Returns (RadiusModule.sendRadiusMessage setup nonce (some info)) auth := by
  obtain ⟨extras, extrasOk, sized, short⟩ := prepareExtra_fits module
  obtain ⟨packed, done⟩ := radiusPack_eq_ok wellFormed named encodable sized short
    auth.nextRadiusId nonce
  unfold Returns RadiusModule.sendRadiusMessage RadiusModule.encodeRadiusResponse
    RadiusModule.socketSend
  simp only [whenSome, holds_bind, holds_read, then_ok, holds_modify, holds_ofExcept, extrasOk]
  rw [done, then_ok, holds_bind, holds_read, then_ok, holds_bind, holds_require]
  exact ⟨fun _ => ⟨(), rfl⟩, fun closed => absurd socket closed⟩

theorem initial_supplied (begun : Nat) : Supplied (Authenticator.initial setup begun) :=
  ⟨(fun _ _ wrong => nomatch wrong), (fun _ wrong => nomatch wrong),
    fun _ _ wrong => nomatch wrong⟩

/-! The loops over whole runs. -/

/-- What each thread gets to handle is something it can serve. -/
def Tolerable (setup : Setup) (auth : Authenticator) : Event → Prop
  | .frame packedMessage _ =>
      auth.eapReceiver = .serving → FrameServed auth (Authenticator.received packedMessage)
  | .datagram packedMessage _ =>
      auth.radiusReceiver = .serving →
        DatagramServed setup auth (Authenticator.received packedMessage)
  | .tick _ => True
  | .send _ => auth.radiusSender = .serving → PacketServed setup auth

/-- A loop that runs until its module is shut down. -/
def Thread.Sturdy (shutDown : Bool) (thread : Thread) : Prop :=
  thread = .serving ∨ thread = .ended ∧ shutDown = true

/-- No exception has escaped from one of the three loops. -/
structure Sturdy (auth : Authenticator) : Prop where
  eapReceiver : auth.eapReceiver.Sturdy auth.eapShutDown
  radiusReceiver : auth.radiusReceiver.Sturdy auth.radiusShutDown
  radiusSender : auth.radiusSender.Sturdy auth.radiusShutDown

theorem Thread.Sturdy.mono {before after : Bool} {thread : Thread}
    (sturdy : thread.Sturdy before) (stays : before = true → after = true) :
    thread.Sturdy after :=
  sturdy.imp_right fun finished => ⟨finished.1, stays finished.2⟩

theorem Thread.sturdy_after (shutDown : Bool) (outcome : Except Raised Unit)
    (returned : ∃ value, outcome = .ok value) :
    (Thread.after shutDown outcome).Sturdy shutDown := by
  obtain ⟨value, rfl⟩ := returned
  cases shutDown with
  | false => exact .inl rfl
  | true => exact .inr ⟨rfl, rfl⟩

/-- The part of the registry that tells how the loops stand. -/
structure Unharmed (auth reached : Authenticator) : Prop where
  eapReceiver : reached.eapReceiver = auth.eapReceiver
  radiusReceiver : reached.radiusReceiver = auth.radiusReceiver
  radiusSender : reached.radiusSender = auth.radiusSender
  eap : auth.eapShutDown = true → reached.eapShutDown = true
  radius : auth.radiusShutDown = true → reached.radiusShutDown = true

theorem Settled.unharmed {reached : Authenticator} (settled : Settled auth reached) :
    Unharmed auth reached := by
  have same := settled.registry
  simp only [Dot1x.registry, Prod.mk.injEq] at same
  obtain ⟨_, _, _, _, eapReceiver, radiusReceiver, radiusSender⟩ := same
  exact ⟨eapReceiver, radiusReceiver, radiusSender, settled.eap, settled.radius⟩

theorem Sturdy.unharmed {reached : Authenticator} (sturdy : Sturdy auth)
    (unharmed : Unharmed auth reached) : Sturdy reached where
  eapReceiver := unharmed.eapReceiver ▸ sturdy.eapReceiver.mono unharmed.eap
  radiusReceiver := unharmed.radiusReceiver ▸ sturdy.radiusReceiver.mono unharmed.radius
  radiusSender := unharmed.radiusSender ▸ sturdy.radiusSender.mono unharmed.radius

theorem sendRadiusMessage_unharmed (nonce : Bytes) (outbound : Option RadiusPacketInfo) :
    (RadiusModule.sendRadiusMessage setup nonce outbound).Holds auth
      fun _ reached => Unharmed auth reached := by
  let threadsFrame : Frame Authenticator :=
    { rel := Unharmed
      refl := fun _ => ⟨rfl, rfl, rfl, id, id⟩
      trans := fun former latter =>
        ⟨latter.eapReceiver.trans former.eapReceiver,
          latter.radiusReceiver.trans former.radiusReceiver,
          latter.radiusSender.trans former.radiusSender,
          latter.eap ∘ former.eap, latter.radius ∘ former.radius⟩ }
  have kept : (RadiusModule.sendRadiusMessage setup nonce outbound).Within threadsFrame := by
    unfold RadiusModule.sendRadiusMessage RadiusModule.encodeRadiusResponse
      RadiusModule.socketSend
    refine within_whenSome _ fun info => within_bind ?_ fun packed => ?_
    · exact within_bind (within_read _) fun _ => within_bind
        (within_modify fun _ => ⟨rfl, rfl, rfl, id, id⟩) fun _ =>
          within_bind (within_ofExcept _) fun _ => within_ofExcept _
    · exact within_bind (within_read _) fun _ => within_bind (within_require _) fun _ =>
        within_modify fun _ => ⟨rfl, rfl, rfl, id, id⟩
  exact kept auth

theorem takePacket_sturdy (sturdy : Sturdy auth) (supplied : Supplied auth) (nonce : Nonce)
    (tolerable : Tolerable setup auth (.send nonce)) :
    Sturdy (Authenticator.takePacket setup nonce auth) := by
  rw [Authenticator.takePacket]
  split
  · exact sturdy
  · rename_i outbound rest queue
    split
    · rename_i serving
      let popped : Authenticator := { auth with radiusQueue := rest }
      have returned : Returns (RadiusModule.sendRadiusMessage setup nonce.1 outbound) popped := by
        cases outbound with
        | none => exact ⟨(), rfl⟩
        | some info =>
            obtain ⟨⟨name, named, encodable⟩, module, socket⟩ := tolerable serving info rest queue
            have wellFormed := supplied.queue info (queue ▸ List.mem_cons_self)
            exact @sendRadiusMessage_returns setup popped info wellFormed name named encodable
              module socket nonce.1
      have unharmed : Unharmed popped ((RadiusModule.sendRadiusMessage setup nonce.1 outbound).run
          popped).2 := sendRadiusMessage_unharmed nonce.1 outbound
      have after := Sturdy.unharmed (show Sturdy popped from
        ⟨sturdy.eapReceiver, sturdy.radiusReceiver, sturdy.radiusSender⟩) unharmed
      exact ⟨after.eapReceiver, after.radiusReceiver, Thread.sturdy_after _ _ returned⟩
    · exact sturdy

theorem step_sturdy (sturdy : Sturdy auth) (supplied : Supplied auth) (filed : Filed auth)
    (event : Event) (tolerable : Tolerable setup auth event) :
    Sturdy (Authenticator.step setup event auth) := by
  cases event with
  | frame packedMessage now =>
      rw [Authenticator.step, Authenticator.takeFrame]
      split
      · rename_i serving
        have returned := @receiveEapMessage_returns setup auth filed now _ (tolerable serving)
        have after := sturdy.unharmed (Registry.receiveEapMessage_within setup now
          (Authenticator.received packedMessage) auth).unharmed
        exact ⟨Thread.sturdy_after _ _ returned, after.radiusReceiver, after.radiusSender⟩
      · exact sturdy
  | datagram packedMessage now =>
      rw [Authenticator.step, Authenticator.takeDatagram]
      split
      · rename_i serving
        have returned := receiveRadiusMessage_returns supplied now (tolerable serving)
        have after := sturdy.unharmed (Registry.receiveRadiusMessage_within setup now
          (Authenticator.received packedMessage) auth).unharmed
        exact ⟨after.eapReceiver, Thread.sturdy_after _ _ returned, after.radiusSender⟩
      · exact sturdy
  | tick now =>
      rw [Authenticator.step, Authenticator.takeTick]
      split
      · exact sturdy.unharmed (Registry.handleSmTimeout_within setup now auth).unharmed
      · exact sturdy
  | send nonce => exact takePacket_sturdy sturdy supplied nonce tolerable

/-- As long as every frame, datagram and packet can be served, the three loops run
until their modules are shut down. -/
theorem reached_sturdy {begun : Nat}
    (reached : Reaches (Authenticator.step setup) (Tolerable setup)
      (Authenticator.initial setup begun) auth) : Sturdy auth := by
  have together : Sturdy auth ∧ Supplied auth ∧ Consistent setup begun auth ∧
      Reached setup begun auth := by
    induction reached with
    | start => exact ⟨⟨.inl rfl, .inl rfl, .inl rfl⟩, initial_supplied begun,
        initial_consistent, .start⟩
    | step event _ tolerable before =>
        obtain ⟨sturdy, supplied, consistent, free⟩ := before
        exact ⟨step_sturdy sturdy supplied consistent.toFiled event tolerable,
          step_supplied supplied event, step_consistent free consistent event,
          .step event free trivial⟩
  exact together.1

namespace Sample

/-- The user name that the sample supplicant gives. -/
def user : Bytes := [117, 115, 101, 114]

theorem startFrame_served (auth : Authenticator) :
    FrameServed auth (Authenticator.received startFrame) := by
  intro message dstMac parsed
  have start : MessageParser.ethernetParse (Authenticator.received startFrame) =
      .ok (.eapolStart (some supplicant), Sample.setup.eapAddress) := by
    decide +kernel
  rw [start] at parsed
  cases parsed
  exact .inl rfl

/-- The frame that names the user is served once the machine has been started. -/
theorem identityFrame_served :
    FrameServed (Authenticator.runEvents Sample.setup [.frame startFrame 10] begun)
      (Authenticator.received (identityFrame user)) := by
  intro message dstMac parsed
  have identity : MessageParser.ethernetParse (Authenticator.received (identityFrame user)) =
      .ok (.eap (some supplicant) (.identity 2 255 user), Sample.setup.eapAddress) := by
    decide +kernel
  rw [identity] at parsed
  cases parsed
  have waits : ((Authenticator.runEvents Sample.setup [.frame startFrame 10]
      begun).stateMachines.get? supplicant).map AuthStateMachine.state = some .supplicant := by
    decide +kernel
  obtain ⟨machine, found, state⟩ := Option.map_eq_some_iff.mp waits
  exact .inr ⟨supplicant, machine, rfl, found, state⟩

/-- The request that is queued then names the user. -/
theorem identity_packetServed :
    PacketServed Sample.setup (Authenticator.runEvents Sample.setup
      [.frame startFrame 10, .frame (identityFrame user) 11] begun) := by
  intro info rest queue
  have names : (Authenticator.runEvents Sample.setup
      [.frame startFrame 10, .frame (identityFrame user) 11] begun).radiusQueue.map
        (fun outbound => outbound.map RadiusPacketInfo.identity) = [some (some user)] := by
    decide +kernel
  rw [queue] at names
  simp only [List.map_cons, Option.map_some, List.cons.injEq, Option.some.injEq] at names
  exact ⟨⟨user, names.1, by decide, by decide⟩, ⟨by decide, by decide⟩, by decide +kernel⟩

/-- The conversation up to the question to the server harms no loop. -/
theorem asked_sturdy : Sturdy (Authenticator.runEvents Sample.setup asked begun) := by
  have started : Reaches (Authenticator.step Sample.setup) (Tolerable Sample.setup) begun
      (Authenticator.runEvents Sample.setup [.frame startFrame 10] begun) :=
    .step (Event.frame startFrame 10) .start fun _ => startFrame_served _
  have named : Reaches (Authenticator.step Sample.setup) (Tolerable Sample.setup) begun
      (Authenticator.runEvents Sample.setup
        [.frame startFrame 10, .frame (identityFrame user) 11] begun) :=
    .step (Event.frame (identityFrame user) 11) started fun _ => identityFrame_served
  exact @reached_sturdy Sample.setup _ 0
    (.step (Event.send requestAuthenticator) named fun _ => identity_packetServed)

/-- A response from an address that has not started the authentication ends the
loop of the EAP module. -/
theorem not_every_run_sturdy :
    ¬ ∀ (setup : Setup) (begun : Nat) (auth : Authenticator), Reached setup begun auth →
      Sturdy auth := by
  intro always
  have sturdy := always Sample.setup 0
    (Authenticator.runEvents Sample.setup [.frame (identityFrame user) 5] begun)
    (Reaches.foldl (fun _ _ => trivial) _)
  have failed : (Authenticator.runEvents Sample.setup [.frame (identityFrame user) 5]
      begun).eapReceiver = .failed .keyError := by
    decide +kernel
  rcases sturdy.eapReceiver with serving | finished
  · cases failed.symm.trans serving
  · cases failed.symm.trans finished.1

end Sample

end Daq.Dot1x
