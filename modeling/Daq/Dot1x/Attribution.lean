import Daq.Dot1x.Frames
import Daq.Dot1x.Parsing
import Daq.Lib.Reach

namespace Daq.Dot1x

open Exec Fallible

/-! Responses are attributed to the request they answer, however often the
identifiers have been reused. -/

/-- The two tables agree on the latest request of every identifier. -/
structure Tabled (auth : Authenticator) : Prop where
  latest : ∀ {packetId authenticator},
    auth.packetIdToRequestAuthenticator.get? packetId = some authenticator →
    ∃ srcMac port, auth.packetIdToMac.get? packetId = some (srcMac, port) ∧
      ⟨packetId, srcMac, authenticator⟩ ∈ auth.requests
  sized : ∀ {request}, request ∈ auth.requests → request.authenticator.length = 16

theorem Tabled.tables_eq {auth reached : Authenticator} (tabled : Tabled auth)
    (same : tables reached = tables auth) : Tabled reached := by
  simp only [tables, Prod.mk.injEq] at same
  obtain ⟨_, authenticators, macs, requests⟩ := same
  constructor
  · rw [authenticators, macs, requests]
    exact tabled.latest
  · rw [requests]
    exact tabled.sized

theorem registerRequest_tabled {auth : Authenticator} (tabled : Tabled auth)
    (info : RadiusPacketInfo) (nonce : Nonce) :
    Tabled (RadiusModule.registerRequest info nonce.1 auth) := by
  constructor
  · intro packetId stored found
    by_cases same : packetId = auth.nextRadiusId
    · subst same
      simp only [RadiusModule.registerRequest, Dict.get?_insert_self] at found ⊢
      cases found
      exact ⟨info.srcMac, info.portId, rfl, by simp⟩
    · simp only [RadiusModule.registerRequest, Dict.get?_insert_of_ne _ _ same] at found ⊢
      obtain ⟨srcMac, port, addressed, requested⟩ := tabled.latest found
      exact ⟨srcMac, port, addressed, by simp [requested]⟩
  · intro request
    simp only [RadiusModule.registerRequest, List.mem_append, List.mem_singleton]
    rintro (old | rfl)
    · exact tabled.sized old
    · exact nonce.2

theorem reached_tabled {setup : Setup} {allowed : Authenticator → Event → Prop} {begun : Nat}
    {auth : Authenticator}
    (reached : Reaches (Authenticator.step setup) allowed (Authenticator.initial setup begun)
      auth) : Tabled auth := by
  refine reached.invariant Tabled ⟨?_, ?_⟩ ?_
  · intro packetId authenticator found
    cases found
  · intro request member
    cases member
  · intro auth event tabled _
    rcases step_tables setup event auth with same | ⟨nonce, info, _, same⟩
    · exact tabled.tables_eq same
    · exact (registerRequest_tabled tabled info nonce).tables_eq same

/-- The random authenticator of a request has not been used before. -/
def Fresh (auth : Authenticator) (event : Event) : Prop :=
  ∀ nonce, event = .send nonce → ∀ request ∈ auth.requests, request.authenticator ≠ nonce.1

/-- A request is known by its authenticator. -/
def Distinguished (auth : Authenticator) : Prop :=
  ∀ first ∈ auth.requests, ∀ second ∈ auth.requests,
    first.authenticator = second.authenticator → first = second

theorem Distinguished.tables_eq {auth reached : Authenticator}
    (distinguished : Distinguished auth) (same : tables reached = tables auth) :
    Distinguished reached := by
  simp only [tables, Prod.mk.injEq] at same
  obtain ⟨_, _, _, requests⟩ := same
  unfold Distinguished
  rw [requests]
  exact distinguished

theorem registerRequest_distinguished {auth : Authenticator} (distinguished : Distinguished auth)
    (info : RadiusPacketInfo) {nonce : Nonce}
    (unused : ∀ request ∈ auth.requests, request.authenticator ≠ nonce.1) :
    Distinguished (RadiusModule.registerRequest info nonce.1 auth) := by
  intro first firstMember second secondMember
  simp only [RadiusModule.registerRequest, List.mem_append, List.mem_singleton]
    at firstMember secondMember
  rcases firstMember with old | rfl
  · rcases secondMember with older | rfl
    · exact distinguished first old second older
    · exact fun equal => absurd equal (unused first old)
  · rcases secondMember with older | rfl
    · exact fun equal => absurd equal.symm (unused second older)
    · exact fun _ => rfl

theorem reached_distinguished {setup : Setup} {begun : Nat} {auth : Authenticator}
    (reached : Reaches (Authenticator.step setup) Fresh (Authenticator.initial setup begun) auth) :
    Distinguished auth := by
  refine reached.invariant Distinguished ?_ ?_
  · intro first member
    cases member
  · intro auth event distinguished fresh
    rcases step_tables setup event auth with same | ⟨nonce, info, rfl, same⟩
    · exact distinguished.tables_eq same
    · exact (registerRequest_distinguished distinguished info (fresh nonce rfl)).tables_eq same

/-! Which request authenticator a response was computed with. -/

/-- The text that the response authenticator of a datagram is the hash of, when it
answers a request with the given authenticator: the server hashes the bytes that it
sends, the code the packet that it read, packed again. -/
inductive Hashed (setup : Setup) (packedMessage authenticator : Bytes) : Bytes → Prop where
  | sent : Hashed setup packedMessage authenticator
      (packedMessage.take 4 ++ authenticator ++ packedMessage.drop 20 ++ setup.radiusSecret)
  | checked {packet : RadiusPacket} {packed : Bytes}
      (read : Radius.readPacket packedMessage = .ok packet)
      (done : { packet with authenticator }.pack = .ok packed) :
      Hashed setup packedMessage authenticator (packed ++ setup.radiusSecret)

/-- The response authenticator of a datagram is the hash of its own packet with the
given authenticator in its place. -/
def ComputedWith (setup : Setup) (packedMessage authenticator : Bytes) : Prop :=
  ∃ text, Hashed setup packedMessage authenticator text ∧
    packedMessage.slice 4 20 = setup.hashes.md5 text

/-- For a datagram the hash tells the requests apart: with the authenticators of two of
them in its place, its packet has different hashes. -/
def TellsApart (setup : Setup) (requests : List Request) (packedMessage : Bytes) : Prop :=
  ∀ first ∈ requests, ∀ second ∈ requests, ∀ {text other : Bytes},
    Hashed setup packedMessage first.authenticator text →
    Hashed setup packedMessage second.authenticator other →
    setup.hashes.md5 text = setup.hashes.md5 other →
    first.authenticator = second.authenticator

theorem unpackHeader_eq_ok {packedMessage authenticator : Bytes} {code packetId : UInt8}
    (unpacked : Radius.unpackHeader (packedMessage.take 20) = .ok (code, packetId, authenticator)) :
    packedMessage.slice 4 20 = authenticator := by
  unfold Radius.unpackHeader at unpacked
  split at unpacked
  · rename_i first second third fourth rest shape
    split at unpacked
    · simp only [Except.ok.injEq, Prod.mk.injEq] at unpacked
      obtain ⟨_, _, rfl⟩ := unpacked
      simp [Bytes.slice, shape]
    · cases unpacked
  · cases unpacked

theorem accepted_computedWith {setup : Setup} {packedMessage : Bytes} {table : Dict UInt8 Bytes}
    {packet : RadiusPacket} {request : Bytes}
    (accepted : Accepted setup.hashes packedMessage setup.radiusSecret table packet request)
    (answer : packet.packetType ≠ .accessRequest) (size : request.length = 16) :
    ComputedWith setup packedMessage request := by
  have valid := accepted.response
  have nonempty : request ≠ [] := by
    rintro rfl
    cases size
  rw [RadiusPacket.validateResponseAuthenticator, if_pos ⟨nonempty, answer⟩] at valid
  obtain ⟨packed, done, compared⟩ := bind_eq_ok_iff.mp valid
  refine ⟨packed ++ setup.radiusSecret, .checked accepted.read done, ?_⟩
  rw [unpackHeader_eq_ok (readPacket_eq_ok_iff.mp accepted.read).1]
  split at compared
  · cases compared
  · rename_i equal
    exact (not_not.mp equal).symm

/-- A response that is passed on was computed with the authenticator of a request
that was sent, and the address it is passed on with is the one of that request. -/
theorem reached_attribution {setup : Setup} {begun : Nat} {auth : Authenticator}
    (reached : Reaches (Authenticator.step setup) Fresh (Authenticator.initial setup begun) auth)
    {packedMessage : Bytes}
    (ideal : TellsApart setup auth.requests (Authenticator.received packedMessage))
    {callback : RadiusModule.Callback}
    (passed : RadiusModule.decodeCallback setup auth (Authenticator.received packedMessage) =
      .ok (some callback))
    (answer : callback.packetType ≠ .accessRequest) :
    (∃ request ∈ auth.requests,
        ComputedWith setup (Authenticator.received packedMessage) request.authenticator ∧
          callback.srcMac = request.srcMac) ∧
      ∀ request ∈ auth.requests,
        ComputedWith setup (Authenticator.received packedMessage) request.authenticator →
        callback.srcMac = request.srcMac := by
  have tabled := reached_tabled reached
  obtain ⟨packet, authenticator, port, passedOn⟩ := decodeCallback_eq_some_iff.mp passed
  have response : packet.packetType ≠ .accessRequest := passedOn.typed ▸ answer
  -- The id leads to the latest request in both tables.
  have looked : auth.packetIdToRequestAuthenticator.get? packet.packetId =
      some authenticator := by
    have known := passedOn.accepted.known
    rw [Radius.requestAuthenticator, if_neg response, reportedAs_eq_ok_iff] at known
    split at known
    · rename_i found
      cases known
      exact found
    · cases known
  obtain ⟨srcMac, sentPort, addressed, requested⟩ := tabled.latest looked
  have computed := accepted_computedWith passedOn.accepted response
    (tabled.sized requested)
  have sameMac : callback.srcMac = srcMac := by
    have both := passedOn.addressed.symm.trans addressed
    simp only [Option.some.injEq, Prod.mk.injEq] at both
    exact both.1
  refine ⟨⟨_, requested, computed, sameMac⟩, ?_⟩
  rintro request member ⟨other, hashedOther, fieldOther⟩
  obtain ⟨text, hashed, field⟩ := computed
  have equal : authenticator = request.authenticator :=
    ideal _ requested _ member hashed hashedOther (field.symm.trans fieldOther)
  rw [sameMac, ← reached_distinguished reached _ requested _ member equal]

/-! A hash of the whole packet. -/

/-- With the rest of the packet fixed, the hash determines the authenticator. -/
def Determines (setup : Setup) : Prop :=
  ∀ {head attributes authenticator other : Bytes},
    head.length = 4 → authenticator.length = 16 → other.length = 16 →
    setup.hashes.md5 (head ++ authenticator ++ attributes ++ setup.radiusSecret) =
      setup.hashes.md5 (head ++ other ++ attributes ++ setup.radiusSecret) →
    authenticator = other

/-- The packet that was read is packed again as it was received. -/
def PackedAsReceived (packedMessage : Bytes) : Prop :=
  ∀ packet, Radius.readPacket packedMessage = .ok packet → ∀ authenticator : Bytes,
    authenticator.length = 16 → { packet with authenticator }.pack =
      .ok (packedMessage.take 4 ++ authenticator ++ packedMessage.drop 20)

theorem Determines.tellsApart {setup : Setup} (determines : Determines setup)
    {requests : List Request} (sized : ∀ request ∈ requests, request.authenticator.length = 16)
    {packedMessage : Bytes} (headed : 4 ≤ packedMessage.length)
    (faithful : PackedAsReceived packedMessage) :
    TellsApart setup requests packedMessage := by
  have hashed_eq : ∀ {authenticator text : Bytes}, authenticator.length = 16 →
      Hashed setup packedMessage authenticator text → text =
        packedMessage.take 4 ++ authenticator ++ packedMessage.drop 20 ++ setup.radiusSecret := by
    intro authenticator text sixteen hashed
    cases hashed with
    | sent => rfl
    | checked read done =>
        rw [faithful _ read _ sixteen] at done
        cases done
        rfl
  intro first firstMember second secondMember text other hashed hashedOther equal
  rw [hashed_eq (sized first firstMember) hashed,
    hashed_eq (sized second secondMember) hashedOther] at equal
  exact determines (List.length_take_of_le headed) (sized first firstMember)
    (sized second secondMember) equal

namespace Sample

def total (message : Bytes) : UInt8 := message.foldr (· + ·) 0

/-- The authenticator with the sum of all the other bytes added to each of its own. -/
def digest (message : Bytes) : Bytes :=
  (((message.drop 4).take 16 ++ List.replicate 16 0).take 16).map
    (· + (total (message.take 4) + total (message.drop 20)))

/-- The setup of the sample conversation with a hash that reads the whole packet. -/
def summing : Setup :=
  { setup with
    hashes := {
      md5 := digest
      hmacMd5 := fun key message => digest (message ++ key)
      length_md5 := by simp [digest]
      length_hmacMd5 := by simp [digest] } }

theorem digest_append {head authenticator rest : Bytes} (four : head.length = 4)
    (sixteen : authenticator.length = 16) :
    digest (head ++ authenticator ++ rest) =
      authenticator.map (· + (total head + total rest)) := by
  have behind : (head ++ authenticator ++ rest).drop 4 = authenticator ++ rest := by
    rw [List.append_assoc, ← four, List.drop_left]
  have before : (head ++ authenticator ++ rest).take 4 = head := by
    rw [List.append_assoc, ← four, List.take_left]
  have after : (head ++ authenticator ++ rest).drop 20 = rest :=
    List.drop_left' (by simp [four, sixteen])
  rw [digest, behind, before, after, List.take_left' sixteen, List.take_left' sixteen]

theorem summing_determines : Determines summing := by
  intro head attributes authenticator other four sixteen sixteen' equal
  change digest _ = digest _ at equal
  rw [List.append_assoc, digest_append four sixteen, List.append_assoc,
    digest_append four sixteen'] at equal
  exact List.map_injective_iff.mpr (fun _ _ same => UInt8.add_left_inj _ |>.mp same) equal

/-- A second supplicant. -/
def neighbour : Address := ⟨[2, 0, 0, 0, 0, 2], rfl⟩

def neighbourNonce : Nonce := ⟨List.replicate 16 7, rfl⟩

/-- Both supplicants name themselves, and the server is asked about each. -/
def bothAsked : List Event :=
  asked ++ [.frame (setup.eapAddress.1 ++ neighbour.1 ++ startFrame.drop 12) 12,
    .frame (setup.eapAddress.1 ++ neighbour.1 ++
      (identityFrame [117, 115, 101, 114]).drop 12) 13,
    .send neighbourNonce]

def bothBegun : Authenticator := Authenticator.runEvents summing bothAsked begun

/-- The acceptance of the first supplicant, hashed as the server hashes it. -/
def firstAcceptance : Bytes :=
  (response .accessAccept 0 successAttribute).take 4 ++
    digest (response .accessAccept 0 successAttribute ++ summing.radiusSecret) ++ successAttribute

theorem bothAsked_fresh :
    Reaches (Authenticator.step summing) Fresh (Authenticator.initial summing 0) bothBegun := by
  refine Reaches.start.run ⟨?_, ?_, ?_, ?_, ?_, ?_, trivial⟩
  · rintro _ ⟨⟩
  · rintro _ ⟨⟩
  · rintro _ ⟨⟩
    decide +kernel
  · rintro _ ⟨⟩
  · rintro _ ⟨⟩
  · rintro _ ⟨⟩
    decide +kernel

theorem firstAcceptance_packedAsReceived :
    PackedAsReceived (Authenticator.received firstAcceptance) := by
  intro packet read authenticator sixteen
  have known : packet.packetType = .accessAccept ∧ packet.packetId = 0 ∧
      packet.attributes = [⟨.eapMessage, [3, 255, 0, 4]⟩] := by
    have found : Radius.readPacket (Authenticator.received firstAcceptance) =
        .ok ⟨.accessAccept, 0, (firstAcceptance.drop 4).take 16,
          [⟨.eapMessage, [3, 255, 0, 4]⟩]⟩ := by
      decide +kernel
    cases read.symm.trans found
    exact ⟨rfl, rfl, rfl⟩
  obtain ⟨code, packetId, attributes⟩ := known
  have copied : packChars 16 [authenticator] = .ok authenticator := by
    rw [packChars, List.take_left' sixteen]
  rw [RadiusPacket.pack]
  simp only [code, packetId, attributes, copied]
  rfl

/-- The callback that the acceptance leads to. -/
def accepted : RadiusModule.Callback where
  srcMac := supplicant
  attributes := ⟨some (.eap none (.success 255)), none⟩
  packetType := .accessAccept

theorem firstAcceptance_attribution :
    (∃ request ∈ bothBegun.requests,
        ComputedWith summing (Authenticator.received firstAcceptance) request.authenticator ∧
          accepted.srcMac = request.srcMac) ∧
      ∀ request ∈ bothBegun.requests,
        ComputedWith summing (Authenticator.received firstAcceptance) request.authenticator →
        accepted.srcMac = request.srcMac :=
  reached_attribution bothAsked_fresh
    (summing_determines.tellsApart (by decide +kernel) (by decide +kernel)
      firstAcceptance_packedAsReceived)
    (by decide +kernel) (by decide)

end Sample

end Daq.Dot1x
