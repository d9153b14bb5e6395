import Daq.Dot1x.Authenticator
import Daq.Lib.Fallible

namespace Daq.Dot1x

open Fallible

/-! What an accepted packet went through. -/

theorem reportedAs_eq_ok_iff {α : Type} {caught : List Raised} {error : ParseError}
    {call : Except Raised α} {value : α} :
    reportedAs caught error call = .ok value ↔ call = .ok value := by
  cases call with
  | ok returned => exact Iff.rfl
  | error raised =>
      by_cases listed : raised ∈ caught <;> simp [reportedAs, listed]

namespace PacketType

theorem find_code_eq_some_iff {code : UInt8} {packetType : PacketType} :
    PacketType.all.find? (fun registered => registered.code == code) = some packetType ↔
      packetType.code = code := by
  constructor
  · intro found
    simpa using List.find?_some found
  · rintro rfl
    cases packetType <;> rfl

end PacketType

/-- The checks that a packet passes to be accepted. -/
structure Accepted (hashes : Hashes) (packedMessage secret : Bytes)
    (packetIdToRequestAuthenticator : Dict UInt8 Bytes) (packet : RadiusPacket)
    (request : Bytes) : Prop where
  read : Radius.readPacket packedMessage = .ok packet
  known : Radius.requestAuthenticator packet packetIdToRequestAuthenticator = .ok request
  keyed : secret ≠ []
  response : packet.validateResponseAuthenticator hashes request secret = .ok ()
  message : packet.validateMessageAuthenticator hashes secret request = .ok ()

theorem validatePacket_eq_ok_iff {hashes : Hashes} {packet returned : RadiusPacket}
    {secret request : Bytes} :
    packet.validatePacket hashes secret request = .ok returned ↔
      secret ≠ [] ∧ packet.validateResponseAuthenticator hashes request secret = .ok () ∧
        packet.validateMessageAuthenticator hashes secret request = .ok () ∧
        packet = returned := by
  unfold RadiusPacket.validatePacket
  by_cases empty : secret = []
  · simp [empty, throw, throwThe, MonadExceptOf.throw]
  · simp only [empty, if_false, bind_eq_ok_iff, pure_eq_ok_iff, ne_eq,
      not_false_eq_true, true_and]
    constructor
    · rintro ⟨⟨⟩, response, ⟨⟩, message, same⟩
      exact ⟨response, message, same⟩
    · rintro ⟨response, message, same⟩
      exact ⟨(), response, (), message, same⟩

theorem parse_eq_ok_iff {hashes : Hashes} {packedMessage secret : Bytes}
    {table : Dict UInt8 Bytes} {packet : RadiusPacket} :
    Radius.parse hashes packedMessage secret table = .ok packet ↔
      ∃ request, Accepted hashes packedMessage secret table packet request := by
  unfold Radius.parse
  simp only [bind_eq_ok_iff, reportedAs_eq_ok_iff, validatePacket_eq_ok_iff]
  constructor
  · rintro ⟨_, read, request, known, keyed, response, message, rfl⟩
    exact ⟨request, read, known, keyed, response, message⟩
  · rintro ⟨request, accepted⟩
    exact ⟨packet, accepted.read, request, accepted.known, accepted.keyed, accepted.response,
      accepted.message, rfl⟩

theorem readPacket_eq_ok_iff {packedMessage : Bytes} {packet : RadiusPacket} :
    Radius.readPacket packedMessage = .ok packet ↔
      Radius.unpackHeader (packedMessage.take 20) =
          .ok (packet.packetType.code, packet.packetId, packet.authenticator) ∧
        RadiusAttributesList.parse (packedMessage.drop 20) = .ok packet.attributes := by
  unfold Radius.readPacket
  simp only [bind_eq_ok_iff, reportedAs_eq_ok_iff]
  constructor
  · rintro ⟨⟨code, packetId, authenticator⟩, header, rest⟩
    cases found : PacketType.all.find? (fun registered => registered.code == code) with
    | none => simp [found, throw, throwThe, MonadExceptOf.throw] at rest
    | some packetType =>
        simp only [found, bind_eq_ok_iff, pure_eq_ok_iff] at rest
        obtain ⟨attributes, parsed, rfl⟩ := rest
        cases PacketType.find_code_eq_some_iff.mp found
        exact ⟨header, parsed⟩
  · rintro ⟨header, attributes⟩
    refine ⟨_, header, ?_⟩
    simp only [PacketType.find_code_eq_some_iff.mpr rfl, bind_eq_ok_iff, pure_eq_ok_iff]
    exact ⟨packet.attributes, attributes, rfl⟩

/-- A packet that is passed on, with the entry of the table its id leads to. -/
structure PassedOn (setup : Setup) (auth : Authenticator) (packedMessage : Bytes)
    (callback : RadiusModule.Callback) (packet : RadiusPacket) (request : Bytes) (port : Nat) :
    Prop where
  accepted : Accepted setup.hashes packedMessage setup.radiusSecret
    auth.packetIdToRequestAuthenticator packet request
  attributes : RadiusModule.readAttributes packet.attributes ⟨none, none⟩ =
    .ok callback.attributes
  addressed : auth.packetIdToMac.get? packet.packetId = some (callback.srcMac, port)
  typed : packet.packetType = callback.packetType

theorem decodeCallback_eq_some_iff {setup : Setup} {auth : Authenticator}
    {packedMessage : Bytes} {callback : RadiusModule.Callback} :
    RadiusModule.decodeCallback setup auth packedMessage = .ok (some callback) ↔
      ∃ packet request port, PassedOn setup auth packedMessage callback packet request port := by
  unfold RadiusModule.decodeCallback
  constructor
  · intro decoded
    split at decoded
    · cases decoded
    · cases decoded
    · rename_i packet parsed
      obtain ⟨request, accepted⟩ := parse_eq_ok_iff.mp parsed
      obtain ⟨attributes, read, found⟩ := bind_eq_ok_iff.mp decoded
      split at found
      · cases found
      · rename_i srcMac port addressed
        cases found
        exact ⟨packet, request, port, accepted, read, addressed, rfl⟩
  · rintro ⟨packet, request, port, accepted, read, addressed, typed⟩
    rw [parse_eq_ok_iff.mpr ⟨request, accepted⟩]
    simp only [read, ok_bind, addressed, typed]
    rfl

end Daq.Dot1x
