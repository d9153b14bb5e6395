import Daq.Dot1x.Attribution
import Daq.Dot1x.Verdict

namespace Daq.Dot1x

open Exec Fallible

/-! What a datagram can do whose sender does not know the shared secret. -/

/-- The response authenticator is the hash of the packet for a request. -/
def ProvesResponse (setup : Setup) (request : Bytes) (packet : RadiusPacket) : Prop :=
  ∃ packed, { packet with authenticator := request }.pack = .ok packed ∧
    packet.authenticator = setup.hashes.md5 (packed ++ setup.radiusSecret)

/-- The Message-Authenticator is the keyed hash of the packet for a request. -/
def ProvesMessage (setup : Setup) (request : Bytes) (packet : RadiusPacket) : Prop :=
  ∃ attr packed,
    RadiusAttributesList.find packet.attributes
        (AttributeType.description .messageAuthenticator) = some attr ∧
      { packet with
        authenticator := request
        attributes := RadiusPacket.zeroMessageAuthenticator packet.attributes }.pack =
          .ok packed ∧
      attr.bytesData = setup.hashes.hmacMd5 setup.radiusSecret packed

/-- A datagram with neither a valid response authenticator for an outstanding
request nor a valid Message-Authenticator. -/
def Unauthenticated (setup : Setup) (auth : Authenticator) (packedMessage : Bytes) : Prop :=
  ∀ packet request, Radius.readPacket packedMessage = .ok packet →
    Radius.requestAuthenticator packet auth.packetIdToRequestAuthenticator = .ok request →
    ¬ (packet.packetType ≠ .accessRequest ∧ ProvesResponse setup request packet) ∧
      ¬ ProvesMessage setup request packet

/-- The machines, the results and the outbound queues. -/
def effects (auth : Authenticator) :=
  (auth.stateMachines, auth.results, auth.eapQueue, auth.radiusQueue)

/-- An Access-Request without a Message-Authenticator whose id belongs to a
machine that it moves, or whose State it replaces. -/
structure Forges (setup : Setup) (auth : Authenticator) (packedMessage : Bytes)
    (packet : RadiusPacket) (attributes : Authenticator.RadiusPacketAttributes)
    (srcMac : Address) (port : Nat) (machine : AuthStateMachine) : Prop where
  read : Radius.readPacket packedMessage = .ok packet
  request : packet.packetType = .accessRequest
  unsigned : RadiusAttributesList.find packet.attributes
    (AttributeType.description .messageAuthenticator) = none
  keyed : setup.radiusSecret ≠ []
  understood : RadiusModule.readAttributes packet.attributes ⟨none, none⟩ = .ok attributes
  addressed : auth.packetIdToMac.get? packet.packetId = some (srcMac, port)
  present : auth.stateMachines.get? srcMac = some machine
  touched : machine.state = .radius ∨ machine.radiusState ≠ attributes.state

def Forged (setup : Setup) (auth : Authenticator) (packedMessage : Bytes) : Prop :=
  ∃ packet attributes srcMac port machine,
    Forges setup auth packedMessage packet attributes srcMac port machine

section

variable {setup : Setup} {auth : Authenticator} {packedMessage : Bytes}

/-- Without the secret only an Access-Request that is not signed is accepted. -/
theorem unauthenticated_accepted {packet : RadiusPacket} {request : Bytes}
    (tabled : Tabled auth)
    (unauthenticated : Unauthenticated setup auth packedMessage)
    (accepted : Accepted setup.hashes packedMessage setup.radiusSecret
      auth.packetIdToRequestAuthenticator packet request) :
    packet.packetType = .accessRequest ∧
      RadiusAttributesList.find packet.attributes
        (AttributeType.description .messageAuthenticator) = none := by
  obtain ⟨noResponse, noMessage⟩ := unauthenticated packet request accepted.read accepted.known
  constructor
  · by_contra response
    have known := accepted.known
    rw [Radius.requestAuthenticator, if_neg response, reportedAs_eq_ok_iff] at known
    have size : request.length = 16 := by
      split at known
      · rename_i found
        cases known
        obtain ⟨srcMac, port, _, requested⟩ := tabled.latest found
        exact tabled.sized requested
      · cases known
    have nonempty : request ≠ [] := by
      rintro rfl
      cases size
    have valid := accepted.response
    rw [RadiusPacket.validateResponseAuthenticator, if_pos ⟨nonempty, response⟩] at valid
    obtain ⟨packed, done, compared⟩ := bind_eq_ok_iff.mp valid
    split at compared
    · cases compared
    · rename_i equal
      exact noResponse ⟨response, packed, done, (not_not.mp equal).symm⟩
  · have valid := accepted.message
    unfold RadiusPacket.validateMessageAuthenticator at valid
    split at valid
    · rename_i unsigned
      exact unsigned
    · rename_i attr signed
      obtain ⟨packed, done, compared⟩ := bind_eq_ok_iff.mp valid
      split at compared
      · cases compared
      · rename_i equal
        exact absurd ⟨attr, packed, signed, done, not_not.mp equal⟩ noMessage

theorem unsigned_accepted {packet : RadiusPacket}
    (read : Radius.readPacket packedMessage = .ok packet)
    (request : packet.packetType = .accessRequest)
    (unsigned : RadiusAttributesList.find packet.attributes
      (AttributeType.description .messageAuthenticator) = none)
    (keyed : setup.radiusSecret ≠ []) :
    Accepted setup.hashes packedMessage setup.radiusSecret
      auth.packetIdToRequestAuthenticator packet packet.authenticator where
  read
  known := by rw [Radius.requestAuthenticator, if_pos request]
  keyed
  response := by
    rw [RadiusPacket.validateResponseAuthenticator, if_neg]
    exact fun both => both.2 request
  message := by
    unfold RadiusPacket.validateMessageAuthenticator
    rw [unsigned]

/-- A response that is not expected raises, but its State stays. -/
theorem receivedRadiusResponse_unexpected (now : Nat) {machine : AuthStateMachine}
    (unexpected : machine.state ≠ .radius) (payload : Option EapMessage)
    (radiusState : Option Bytes) (packetType : PacketType) :
    (machine.receivedRadiusResponse setup now payload radiusState packetType).run auth =
      (.error .assertionError,
        { auth with
          stateMachines :=
            auth.stateMachines.insert machine.srcMac { machine with radiusState } }) := by
  unfold AuthStateMachine.receivedRadiusResponse Authenticator.store
  cases packetType <;>
    simp [AuthStateMachine.stateTransition, unexpected, Bind.bind, Exec.modify, Exec.ofExcept]

theorem receivedRadiusResponse_request (now : Nat) {machine : AuthStateMachine}
    (expected : machine.state = .radius) (payload : Option EapMessage)
    (radiusState : Option Bytes) :
    (machine.receivedRadiusResponse setup now payload radiusState .accessRequest).Holds auth
      fun _ reached => reached.stateOf machine.srcMac = some .supplicant := by
  unfold AuthStateMachine.receivedRadiusResponse Authenticator.store
  simp only [holds_bind, then_ok, holds_modify, AuthStateMachine.stateTransition, expected,
    if_true, holds_ofExcept, Dict.insert_insert]
  refine ((keepsLedger (sendEapResponse_within _ _)).holds _).mono fun _ reached same => ?_
  have machines : reached.stateMachines = _ := congrArg Prod.fst same
  simp [Authenticator.stateOf, machines, ledger, AuthStateMachine.await]

theorem step_datagram (now : Nat) (serving : auth.radiusReceiver = .serving) :
    effects (Authenticator.step setup (.datagram packedMessage now) auth) =
      effects ((RadiusModule.receiveRadiusMessage setup now
        (Authenticator.received packedMessage)).run auth).2 := by
  rw [Authenticator.step, Authenticator.takeDatagram, if_pos serving]
  rfl

theorem receiveRadiusMessage_unforged (tabled : Tabled auth) (filed : Filed auth) (now : Nat)
    (unauthenticated : Unauthenticated setup auth packedMessage)
    (unforged : ¬ Forged setup auth packedMessage) :
    (RadiusModule.receiveRadiusMessage setup now packedMessage).Holds auth
      fun _ reached => effects reached = effects auth := by
  unfold RadiusModule.receiveRadiusMessage
  rw [holds_bind, holds_get, then_ok, holds_bind, holds_ofExcept]
  cases decoded : RadiusModule.decodeCallback setup auth packedMessage with
  | error raised => exact rfl
  | ok outcome =>
      rw [then_ok, holds_whenSome]
      refine ⟨fun _ => rfl, ?_⟩
      rintro callback rfl
      obtain ⟨packet, request, port, passed⟩ := decodeCallback_eq_some_iff.mp decoded
      obtain ⟨isRequest, unsigned⟩ :=
        unauthenticated_accepted tabled unauthenticated passed.accepted
      unfold Authenticator.receivedRadiusResponse
      rw [holds_bind]
      refine machineOf_holds (fun machine present => ?_) fun _ => rfl
      have untouched : ¬ (machine.state = .radius ∨
          machine.radiusState ≠ callback.attributes.state) := fun touched =>
        unforged ⟨packet, callback.attributes, callback.srcMac, port, machine,
          passed.accepted.read, isRequest, unsigned, passed.accepted.keyed, passed.attributes,
          passed.addressed, present, touched⟩
      obtain ⟨unexpected, same⟩ := not_or.mp untouched
      rw [not_not] at same
      have kept : auth.stateMachines.insert machine.srcMac
          { machine with radiusState := callback.attributes.state } = auth.stateMachines := by
        have stored : auth.stateMachines.get? machine.srcMac = some machine := by
          rw [filed.keyed present]
          exact present
        rw [← same]
        exact Dict.insert_eq_self stored
      rw [then_ok, holds_of_run (receivedRadiusResponse_unexpected now unexpected _ _ _),
        effects, kept]
      rfl

theorem receiveRadiusMessage_forged (filed : Filed auth) (now : Nat)
    (forged : Forged setup auth packedMessage) :
    (RadiusModule.receiveRadiusMessage setup now packedMessage).Holds auth
      fun _ reached => effects reached ≠ effects auth := by
  obtain ⟨packet, attributes, srcMac, port, machine, forges⟩ := forged
  have accepted : Accepted setup.hashes packedMessage setup.radiusSecret
      auth.packetIdToRequestAuthenticator packet packet.authenticator :=
    unsigned_accepted forges.read forges.request forges.unsigned forges.keyed
  have decoded : RadiusModule.decodeCallback setup auth packedMessage =
      .ok (some ⟨srcMac, attributes, .accessRequest⟩) :=
    decodeCallback_eq_some_iff.mpr ⟨packet, packet.authenticator, port, accepted,
      forges.understood, forges.addressed, forges.request⟩
  have keyed := filed.keyed forges.present
  subst keyed
  unfold RadiusModule.receiveRadiusMessage Authenticator.receivedRadiusResponse
  simp only [holds_bind, holds_get, then_ok, holds_ofExcept, decoded, whenSome]
  refine machineOf_holds (fun found present => ?_) fun absent => ?_
  · cases forges.present.symm.trans present
    rw [then_ok]
    by_cases expected : machine.state = .radius
    · refine (receivedRadiusResponse_request now expected _ _).mono ?_
      intro _ reached moved unchanged
      have machines : reached.stateMachines = auth.stateMachines := congrArg Prod.fst unchanged
      simp [Authenticator.stateOf, machines, forges.present, expected] at moved
    · rw [holds_of_run (receivedRadiusResponse_unexpected now expected _ _ _)]
      intro unchanged
      have machines : auth.stateMachines.insert machine.srcMac
          { machine with radiusState := attributes.state } = auth.stateMachines :=
        congrArg Prod.fst unchanged
      have stored := forges.present
      rw [← machines, Dict.get?_insert_self, Option.some.injEq] at stored
      have same : attributes.state = machine.radiusState :=
        congrArg AuthStateMachine.radiusState stored
      exact (forges.touched.resolve_left expected) same.symm
  · cases forges.present.symm.trans absent

/-- A datagram that proves no knowledge of the secret changes nothing, unless it is
an unsigned Access-Request that touches a machine. -/
theorem reached_unauthenticated {begun : Nat} (reached : Reached setup begun auth)
    (serving : auth.radiusReceiver = .serving) (now : Nat)
    (unauthenticated : Unauthenticated setup auth (Authenticator.received packedMessage)) :
    effects (Authenticator.step setup (.datagram packedMessage now) auth) = effects auth ↔
      ¬ Forged setup auth (Authenticator.received packedMessage) := by
  have tabled := reached_tabled reached
  have filed := (reached_consistent reached).toFiled
  rw [step_datagram now serving]
  constructor
  · intro unchanged forged
    exact receiveRadiusMessage_forged filed now forged unchanged
  · intro unforged
    exact receiveRadiusMessage_unforged tabled filed now unauthenticated unforged

end

namespace Sample

/-- An Access-Request that anyone can write: it carries an EAP success. -/
def forgedRequest : Bytes := [1, 0] ++ Bytes.ofNat 2 26 ++ List.replicate 16 0 ++ successAttribute

/-- The state in which the server has been asked. -/
def askedAuth : Authenticator := Authenticator.runEvents setup asked begun

theorem forgedRequest_unauthenticated :
    Unauthenticated setup askedAuth (Authenticator.received forgedRequest) := by
  intro packet request read _
  have same : Radius.readPacket (Authenticator.received forgedRequest) =
      .ok ⟨.accessRequest, 0, List.replicate 16 0, [⟨.eapMessage, [3, 255, 0, 4]⟩]⟩ := by
    decide +kernel
  cases same.symm.trans read
  refine ⟨fun both => both.1 rfl, ?_⟩
  rintro ⟨attr, packed, found, _⟩
  cases found

theorem forgedRequest_effect :
    effects (Authenticator.step setup (.datagram forgedRequest 12) askedAuth) =
        effects askedAuth ↔
      ¬ Forged setup askedAuth (Authenticator.received forgedRequest) :=
  reached_unauthenticated asked_reached (by decide +kernel) 12 forgedRequest_unauthenticated

/-- The forged request makes the authenticator tell the supplicant that it succeeded. -/
theorem not_every_datagram_harmless :
    ¬ ∀ (setup : Setup) (begun : Nat) (auth : Authenticator) (packedMessage : Bytes) (now : Nat),
      Reached setup begun auth →
      Unauthenticated setup auth (Authenticator.received packedMessage) →
      effects (Authenticator.step setup (.datagram packedMessage now) auth) = effects auth := by
  intro harmless
  have unchanged := harmless setup 0 askedAuth forgedRequest 12 asked_reached
    forgedRequest_unauthenticated
  have queued : (Authenticator.step setup (.datagram forgedRequest 12) askedAuth).eapQueue.length ≠
      askedAuth.eapQueue.length := by
    decide +kernel
  exact queued (congrArg (fun parts => parts.2.2.1.length) unchanged)

end Sample

end Daq.Dot1x
