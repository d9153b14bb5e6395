import Daq.Dot1x.Relay

namespace Daq.Dot1x

open Fallible

/-! What packing and parsing do to EAP packets and to the frames they travel in. -/

namespace Eap

/-- The bytes of a packet that names its type. -/
def typed (code packetId packetType : UInt8) (body : Bytes) : Bytes :=
  [code, packetId] ++ Bytes.ofNat 2 (5 + body.length) ++ packetType :: body

/-- The bytes of a packet without a type. -/
def untyped (code packetId : UInt8) : Bytes := [code, packetId, 0, 4]

theorem length_typed (code packetId packetType : UInt8) (body : Bytes) :
    (typed code packetId packetType body).length = 5 + body.length := by
  simp [typed]
  omega

theorem typed_eq (code packetId packetType : UInt8) (body : Bytes) :
    ∃ high low, Bytes.ofNat 2 (5 + body.length) = [high, low] ∧
      typed code packetId packetType body =
        code :: packetId :: high :: low :: packetType :: body :=
  ⟨_, _, rfl, rfl⟩

theorem typed_injective {code packetId packetType : UInt8} {body other : Bytes}
    (same : typed code packetId packetType body = typed code packetId packetType other) :
    body = other := by
  obtain ⟨_, _, _, first⟩ := typed_eq code packetId packetType body
  obtain ⟨_, _, _, second⟩ := typed_eq code packetId packetType other
  rw [first, second] at same
  simp at same
  exact same.2.2

theorem packTyped_eq (code packetId packetType : UInt8) {body : Bytes}
    (short : 5 + body.length < 65536) :
    packTyped code packetId packetType body = .ok (typed code packetId packetType body) := by
  rw [packTyped, packUnsigned_eq_ok (by omega)]
  simp [typed, pure, Except.pure]

theorem packTyped_eq_ok_iff {code packetId packetType : UInt8} {body packed : Bytes} :
    packTyped code packetId packetType body = .ok packed ↔
      5 + body.length < 65536 ∧ packed = typed code packetId packetType body := by
  by_cases short : 5 + body.length < 65536
  · rw [packTyped_eq code packetId packetType short]
    simp [short]
    exact eq_comm
  · have large : ¬ 4 + 1 + body.length < 256 ^ 2 := by omega
    rw [packTyped, packUnsigned, if_neg large]
    simp [short]

theorem packUntyped_eq (code packetId : UInt8) :
    packUntyped code packetId = .ok (untyped code packetId) := rfl

theorem parse_typed {code : UInt8} (packetId packetType : UInt8) {body : Bytes}
    (coded : code = REQUEST ∨ code = RESPONSE) (short : 5 + body.length < 65536) :
    Eap.parse (typed code packetId packetType body) =
      reportedAs [.keyError] (.unsupportedPacketType packetType) (do
        let parser ← parsers packetType
        parser code packetId body) := by
  obtain ⟨high, low, digits, bytes⟩ := typed_eq code packetId packetType body
  have spelled : Bytes.toNat [high, low] = body.length + 5 := by
    rw [← digits, Bytes.toNat_ofNat (by omega)]
    omega
  rw [bytes, Eap.parse]
  simp [unpackBBH, unpackB, reportedAs, coded, spelled, Bytes.slice]

/-- The length field is right, the size of an MD5 value lies within the packet,
and a packet without a type ends after its header. -/
structure WellFormed (packed : Bytes) : Prop where
  length : Bytes.toNat (packed.slice 2 4) = packed.length
  md5 : ∀ code packetId high low size rest,
    packed = code :: packetId :: high :: low :: MD5_CHALLENGE :: size :: rest →
      size.toNat ≤ rest.length
  bare : ∀ code rest, packed = code :: rest → code = SUCCESS ∨ code = FAILURE →
    packed.length = 4

theorem WellFormed.digits {code packetId high low : UInt8} {tail : Bytes}
    (wellFormed : WellFormed (code :: packetId :: high :: low :: tail)) :
    Bytes.ofNat 2 (4 + tail.length) = [high, low] ∧ 4 + tail.length < 65536 := by
  have spelled : Bytes.toNat [high, low] = 4 + tail.length := by
    have counted := wellFormed.length
    simp [Bytes.slice] at counted
    omega
  have bound := Bytes.toNat_lt [high, low]
  have digits := Bytes.ofNat_toNat [high, low]
  rw [spelled] at bound digits
  exact ⟨digits, by simpa using bound⟩

theorem WellFormed.eq_typed {code packetId high low packetType : UInt8} {body : Bytes}
    (wellFormed : WellFormed (code :: packetId :: high :: low :: packetType :: body)) :
    code :: packetId :: high :: low :: packetType :: body =
        typed code packetId packetType body ∧ 5 + body.length < 65536 := by
  obtain ⟨digits, bound⟩ := wellFormed.digits
  have count : 4 + (packetType :: body).length = 5 + body.length := by
    simp
    omega
  rw [count] at digits bound
  exact ⟨by simp [typed, digits], bound⟩

theorem WellFormed.eq_untyped {code packetId high low : UInt8} {tail : Bytes}
    (wellFormed : WellFormed (code :: packetId :: high :: low :: tail))
    (verdict : code = SUCCESS ∨ code = FAILURE) :
    code :: packetId :: high :: low :: tail = untyped code packetId := by
  have four := wellFormed.bare code _ rfl verdict
  have digits := wellFormed.digits.1
  cases tail with
  | nil =>
      cases digits
      rfl
  | cons byte rest => cases four

theorem parse_eq_ok {packed : Bytes} {eap : Eap} (wellFormed : WellFormed packed)
    (parsed : Eap.parse packed = .ok eap) :
    (∃ code packetId packetType body parser,
      5 + body.length < 65536 ∧ (code = REQUEST ∨ code = RESPONSE) ∧
        packed = typed code packetId packetType body ∧
        parsers packetType = .ok parser ∧ parser code packetId body = .ok eap) ∨
      ∃ packetId, packed = untyped SUCCESS packetId ∧ eap = .success packetId ∨
        packed = untyped FAILURE packetId ∧ eap = .failure packetId := by
  obtain ⟨⟨code, packetId, length⟩, header, rest⟩ := bind_eq_ok_iff.mp parsed
  rw [reportedAs_eq_ok_iff] at header
  obtain ⟨high, low, tail, rfl⟩ : ∃ high low tail,
      packed = code :: packetId :: high :: low :: tail := by
    match packed, header with
    | _ :: _ :: high :: low :: tail, header =>
        cases header
        exact ⟨high, low, tail, rfl⟩
  dsimp only at rest
  split_ifs at rest with coded success failure
  · obtain ⟨packetType, named, _⟩ := bind_eq_ok_iff.mp rest
    rw [reportedAs_eq_ok_iff] at named
    cases tail with
    | nil => cases named
    | cons first body =>
        obtain ⟨same, short⟩ := wellFormed.eq_typed
        rw [same, parse_typed packetId first coded short, reportedAs_eq_ok_iff] at parsed
        obtain ⟨parser, found, parsed⟩ := bind_eq_ok_iff.mp parsed
        exact .inl ⟨code, packetId, first, body, parser, short, coded, same, found, parsed⟩
  · cases rest
    subst success
    exact .inr ⟨packetId, .inl ⟨wellFormed.eq_untyped (.inl rfl), rfl⟩⟩
  · cases rest
    subst failure
    exact .inr ⟨packetId, .inr ⟨wellFormed.eq_untyped (.inr rfl), rfl⟩⟩

theorem parseIdentity_eq_ok_iff {code packetId : UInt8} {body : Bytes} {eap : Eap} :
    parseIdentity code packetId body = .ok eap ↔
      body.isUtf8 = true ∧ eap = .identity code packetId body := by
  cases valid : body.isUtf8 with
  | true =>
      simp [parseIdentity, valid, reportedAs]
      exact eq_comm
  | false => simp [parseIdentity, valid, reportedAs]

theorem parseMd5Challenge_cons (code packetId size : UInt8) (rest : Bytes) :
    parseMd5Challenge code packetId (size :: rest) =
      .ok (.md5Challenge code packetId (rest.take size.toNat) (rest.drop size.toNat)) := by
  have behind : 1 + size.toNat = size.toNat + 1 := Nat.add_comm _ _
  simp [parseMd5Challenge, unpackB, reportedAs, Bytes.slice, behind, pure, Except.pure]

theorem parseLegacyNak_eq (code packetId : UInt8) (body : Bytes) :
    parseLegacyNak code packetId body = .ok (.legacyNak code packetId [body]) := by
  simp [parseLegacyNak, unpackChars, reportedAs, pure, Except.pure]

theorem parseTls_cons (kind : TlsKind) (code packetId flags : UInt8) (extraData : Bytes) :
    parseTls kind code packetId (flags :: extraData) =
      .ok (.tls kind code packetId flags extraData) := rfl

theorem parsers_md5Challenge : parsers MD5_CHALLENGE = .ok parseMd5Challenge := rfl

theorem parsers_tls (kind : TlsKind) : parsers kind.packetType = .ok (parseTls kind) := by
  cases kind <;> rfl

theorem parsers_eq_ok_typed {packetType : UInt8}
    {parser : UInt8 → UInt8 → Bytes → Except Raised Eap}
    (found : parsers packetType = .ok parser) :
    packetType = IDENTITY ∧ parser = parseIdentity ∨
      packetType = MD5_CHALLENGE ∧ parser = parseMd5Challenge ∨
      packetType = LEGACY_NAK ∧ parser = parseLegacyNak ∨
      ∃ kind, packetType = TlsKind.packetType kind ∧ parser = parseTls kind := by
  unfold parsers at found
  split_ifs at found with identity md5 nak tls ttls peap <;> cases found
  · exact .inl ⟨identity, rfl⟩
  · exact .inr (.inl ⟨md5, rfl⟩)
  · exact .inr (.inr (.inl ⟨nak, rfl⟩))
  · exact .inr (.inr (.inr ⟨.tls, tls, rfl⟩))
  · exact .inr (.inr (.inr ⟨.ttls, ttls, rfl⟩))
  · exact .inr (.inr (.inr ⟨.peap, peap, rfl⟩))

/-- What is written for the data of a packet: of a Nak a single byte. -/
def rewritten (packetType : UInt8) (body : Bytes) : Bytes :=
  if packetType = LEGACY_NAK then (body ++ [0]).take 1 else body

theorem rewritten_eq_iff {packetType : UInt8} {body : Bytes} :
    rewritten packetType body = body ↔ (packetType = LEGACY_NAK → body.length = 1) := by
  unfold rewritten
  split
  · rename_i nak
    cases body with
    | nil => simp [nak]
    | cons first rest =>
        simp [nak]
  · rename_i other
    simp [other]

theorem pack_parsed {code packetId packetType : UInt8} {body : Bytes} {eap : Eap}
    {parser : UInt8 → UInt8 → Bytes → Except Raised Eap}
    (found : parsers packetType = .ok parser) (parsed : parser code packetId body = .ok eap)
    (sized : ∀ size rest, packetType = MD5_CHALLENGE → body = size :: rest →
      size.toNat ≤ rest.length) :
    eap.pack = packTyped code packetId packetType (rewritten packetType body) := by
  obtain ⟨rfl, rfl⟩ | ⟨rfl, rfl⟩ | ⟨rfl, rfl⟩ | ⟨kind, rfl, rfl⟩ := parsers_eq_ok_typed found
  · obtain ⟨_, rfl⟩ := parseIdentity_eq_ok_iff.mp parsed
    rfl
  · cases body with
    | nil => cases parsed
    | cons size rest =>
        rw [parseMd5Challenge_cons] at parsed
        cases parsed
        have taken : (rest.take size.toNat).length = size.toNat := by
          simp
          exact sized size rest rfl rfl
        have byte : Bytes.ofNat 1 size.toNat = [size] := by
          simp [Bytes.ofNat]
        rw [Eap.pack, packUnsigned_eq_ok (by rw [taken]; exact size.toNat_lt), taken, byte]
        simp [rewritten, MD5_CHALLENGE, LEGACY_NAK]
  · rw [parseLegacyNak_eq] at parsed
    cases parsed
    rfl
  · cases body with
    | nil => cases parsed
    | cons flags extraData =>
        cases parsed
        cases kind <;> rfl

/-- The packet is a request or a response of type Legacy-Nak. -/
def IsNak (packed : Bytes) : Prop :=
  ∃ code packetId high low body, (code = REQUEST ∨ code = RESPONSE) ∧
    packed = code :: packetId :: high :: low :: LEGACY_NAK :: body

theorem isNak_typed_iff {code packetId packetType : UInt8} {body : Bytes}
    (coded : code = REQUEST ∨ code = RESPONSE) :
    IsNak (typed code packetId packetType body) ↔ packetType = LEGACY_NAK := by
  obtain ⟨high, low, _, bytes⟩ := typed_eq code packetId packetType body
  constructor
  · intro ⟨_, _, _, _, _, _, same⟩
    rw [bytes] at same
    simp at same
    exact same.2.2.2.2.1
  · intro nak
    subst nak
    exact ⟨code, packetId, high, low, body, coded, bytes⟩

/-- A packet survives parsing and packing unless it is a Nak whose data is not a
single byte. -/
theorem pack_parse_iff {packed : Bytes} {eap : Eap} (wellFormed : WellFormed packed)
    (parsed : Eap.parse packed = .ok eap) :
    eap.pack = .ok packed ↔ (IsNak packed → packed.length = 6) := by
  rcases parse_eq_ok wellFormed parsed with
    ⟨code, packetId, packetType, body, parser, short, coded, rfl, found, read⟩ |
    ⟨packetId, ⟨rfl, rfl⟩ | ⟨rfl, rfl⟩⟩
  · have sized : ∀ size rest, packetType = MD5_CHALLENGE → body = size :: rest →
        size.toNat ≤ rest.length := by
      intro size rest md5 shape
      obtain ⟨high, low, _, bytes⟩ := typed_eq code packetId packetType body
      apply wellFormed.md5 code packetId high low
      rw [bytes, md5, shape]
    have count : 5 + body.length = 6 ↔ body.length = 1 := by omega
    rw [isNak_typed_iff coded, length_typed, pack_parsed found read sized, count,
      ← rewritten_eq_iff, packTyped_eq_ok_iff]
    constructor
    · intro written
      exact (typed_injective written.2).symm
    · intro same
      rw [same]
      exact ⟨short, rfl⟩
  · simp [Eap.pack, packUntyped_eq, IsNak, untyped]
  · simp [Eap.pack, packUntyped_eq, IsNak, untyped]

end Eap

namespace MessageParser

/-- For every well-formed EAP packet that is accepted: packing the parsed message
gives the packet back exactly if it is not a Nak with more or less than one byte of data. -/
theorem eapPack_eapParse_iff {packed : Bytes} {srcMac : Option Address} {message : EapMessage}
    (wellFormed : Eap.WellFormed packed) (parsed : eapParse packed srcMac = .ok message) :
    (∃ version packetType,
        MessagePacker.eapPack message = .ok (version, packetType, packed)) ↔
      (Eap.IsNak packed → packed.length = 6) := by
  obtain ⟨eap, read, made⟩ := bind_eq_ok_iff.mp parsed
  cases made
  rw [← Eap.pack_parse_iff wellFormed read]
  cases written : eap.pack with
  | ok data => simp [MessagePacker.eapPack, written]
  | error raised => simp [MessagePacker.eapPack, written]

theorem tlsResponse_unaltered :
    (∃ version packetType,
        MessagePacker.eapPack (.eap none (.tls .tls 2 7 0x80 [1, 2])) =
          .ok (version, packetType, [2, 7, 0, 8, 13, 0x80, 1, 2])) ↔
      (Eap.IsNak [2, 7, 0, 8, 13, 0x80, 1, 2] → [2, 7, 0, 8, 13, 0x80, 1, 2].length = 6) := by
  have wellFormed : Eap.WellFormed [2, 7, 0, 8, 13, 0x80, 1, 2] := by
    constructor
    · decide
    · simp [Eap.MD5_CHALLENGE]
    · simp [Eap.SUCCESS, Eap.FAILURE]
  exact eapPack_eapParse_iff wellFormed
    (show eapParse [2, 7, 0, 8, 13, 0x80, 1, 2] none = _ from rfl)

/-- A Nak that asks for TLS or PEAP is sent on asking for TLS only. -/
theorem nak_altered :
    ¬ ∀ packed srcMac message, Eap.WellFormed packed → eapParse packed srcMac = .ok message →
      ∃ version packetType,
        MessagePacker.eapPack message = .ok (version, packetType, packed) := by
  intro always
  have wellFormed : Eap.WellFormed [2, 7, 0, 7, 3, 13, 25] := by
    constructor
    · decide
    · simp [Eap.MD5_CHALLENGE]
    · simp [Eap.SUCCESS, Eap.FAILURE]
  obtain ⟨version, packetType, same⟩ := always [2, 7, 0, 7, 3, 13, 25] none
    (.eap none (.legacyNak 2 7 [[13, 25]])) wellFormed rfl
  have sent : MessagePacker.eapPack (.eap none (.legacyNak 2 7 [[13, 25]])) =
      .ok (1, 0, [2, 7, 0, 6, 3, 13]) := rfl
  rw [sent] at same
  simp at same

end MessageParser

/-! Frames. -/

/-- A packet whose fields have values that its format can hold: the identity is
a text, and the data leaves room for the headers in the 16-bit lengths. -/
def Eap.Packable : Eap → Prop
  | .identity code _ text =>
      (code = REQUEST ∨ code = RESPONSE) ∧ text.isUtf8 = true ∧ 5 + text.length < 65536
  | .md5Challenge code _ challenge extraData =>
      (code = REQUEST ∨ code = RESPONSE) ∧ challenge.length ≤ 255 ∧
        6 + challenge.length + extraData.length < 65536
  | .tls _ code _ _ extraData =>
      (code = REQUEST ∨ code = RESPONSE) ∧ 6 + extraData.length < 65536
  | .success _ | .failure _ => True
  | .legacyNak .. => False

def EapMessage.Packable : EapMessage → Prop
  | .eap _ packet => packet.Packable
  | .eapolStart _ | .eapolLogoff _ => True

/-- The message as it arrives from an address. -/
def EapMessage.sentBy (source : Address) : EapMessage → EapMessage
  | .eap _ packet => .eap (some source) packet
  | .eapolStart _ => .eapolStart (some source)
  | .eapolLogoff _ => .eapolLogoff (some source)

namespace Eap

theorem parse_pack {eap : Eap} (packable : eap.Packable) :
    ∃ packed, eap.pack = .ok packed ∧ packed.length < 65536 ∧ Eap.parse packed = .ok eap := by
  cases eap with
  | identity code packetId text =>
      obtain ⟨coded, encoded, short⟩ := packable
      refine ⟨_, packTyped_eq code packetId IDENTITY short, ?_, ?_⟩
      · rw [length_typed]
        exact short
      · rw [parse_typed packetId IDENTITY coded short, reportedAs_eq_ok_iff]
        exact parseIdentity_eq_ok_iff.mpr ⟨encoded, rfl⟩
  | md5Challenge code packetId challenge extraData =>
      obtain ⟨coded, small, short⟩ := packable
      have byte : (UInt8.ofNat challenge.length).toNat = challenge.length := by
        rw [UInt8.toNat_ofNat']
        omega
      have room : 5 + (UInt8.ofNat challenge.length :: (challenge ++ extraData)).length <
          65536 := by
        simp
        omega
      refine ⟨typed code packetId MD5_CHALLENGE
        (UInt8.ofNat challenge.length :: (challenge ++ extraData)), ?_, ?_, ?_⟩
      · rw [Eap.pack, packUnsigned_eq_ok (by omega), ok_bind, ← packTyped_eq _ _ _ room]
        simp [Bytes.ofNat]
      · rw [length_typed]
        exact room
      · rw [parse_typed packetId MD5_CHALLENGE coded room, reportedAs_eq_ok_iff]
        rw [parsers_md5Challenge, ok_bind, parseMd5Challenge_cons, byte]
        simp
  | success packetId => exact ⟨untyped SUCCESS packetId, rfl, by simp [untyped], rfl⟩
  | failure packetId => exact ⟨untyped FAILURE packetId, rfl, by simp [untyped], rfl⟩
  | legacyNak code packetId desiredAuthTypes => cases packable
  | tls kind code packetId flags extraData =>
      obtain ⟨coded, short⟩ := packable
      have room : 5 + (flags :: extraData).length < 65536 := by
        simp
        omega
      refine ⟨_, packTyped_eq code packetId kind.packetType room, ?_, ?_⟩
      · rw [length_typed]
        exact room
      · rw [parse_typed packetId kind.packetType coded room, reportedAs_eq_ok_iff,
          parsers_tls, ok_bind, parseTls_cons]

end Eap

/-- An EAPOL packet. -/
def eapol (packetType : UInt8) (payload : Bytes) : Bytes :=
  [1, packetType] ++ Bytes.ofNat 2 payload.length ++ payload

namespace MessageParser

/-- The length of the EAPOL packet cuts the padding of the frame off. -/
theorem auth8021xParse_eapol (packetType : UInt8) {payload : Bytes} (padding : Bytes)
    (short : payload.length < 65536) :
    auth8021xParse (eapol packetType payload ++ padding) = .ok (packetType, payload) := by
  obtain ⟨high, low, digits⟩ : ∃ high low, Bytes.ofNat 2 payload.length = [high, low] :=
    ⟨_, _, rfl⟩
  have spelled : Bytes.toNat [high, low] = payload.length := by
    rw [← digits]
    exact Bytes.toNat_ofNat (by omega)
  have behind : 4 + payload.length = payload.length + 1 + 1 + 1 + 1 := by omega
  rw [eapol, digits, auth8021xParse]
  simp [unpackBBH, reportedAs, spelled, Bytes.slice, behind, pure, Except.pure]

theorem ethernetPacketParse_append (dstMac srcMac : Address) (data : Bytes) :
    ethernetPacketParse (dstMac.1 ++ srcMac.1 ++ Bytes.ofNat 2 0x888e ++ data) =
      .ok { dstMac, srcMac, ethertype := 0x888e, data } := by
  obtain ⟨dst, six⟩ := dstMac
  obtain ⟨src, also⟩ := srcMac
  have count : (dst ++ src ++ Bytes.ofNat 2 0x888e).length = 14 := by simp [six, also]
  have header : (dst ++ src ++ Bytes.ofNat 2 0x888e ++ data).take 14 =
      dst ++ src ++ Bytes.ofNat 2 0x888e := List.take_left' count
  have behind : (dst ++ src ++ Bytes.ofNat 2 0x888e ++ data).drop 14 = data :=
    List.drop_left' count
  have twelve : (dst ++ (src ++ Bytes.ofNat 2 0x888e)).drop 12 = Bytes.ofNat 2 0x888e := by
    rw [← List.append_assoc]
    apply List.drop_left'
    simp [six, also]
  have first : (dst ++ (src ++ Bytes.ofNat 2 0x888e)).take 6 = dst := List.take_left' six
  have second : ((dst ++ (src ++ Bytes.ofNat 2 0x888e)).drop 6).take 6 = src := by
    rw [List.drop_left' six]
    exact List.take_left' also
  have ethertype : Bytes.toNat (Bytes.ofNat 2 0x888e) = 0x888e := by decide
  rw [ethernetPacketParse, header, behind, unpack6s6sH, dif_pos count]
  simp only [List.append_assoc, first, second, twelve, ethertype]
  rfl

end MessageParser

namespace MessagePacker

theorem pack_eq {message : EapMessage} {packetType : UInt8} {data : Bytes}
    (packed : eapPack message = .ok (1, packetType, data)) (short : data.length < 65536) :
    pack message = .ok (eapol packetType data) := by
  rw [pack, packed, ok_bind]
  dsimp only
  rw [packUnsigned_eq_ok (by omega)]
  rfl

theorem ethernetPack_eq {message : EapMessage} {packetType : UInt8} {data : Bytes}
    (packed : eapPack message = .ok (1, packetType, data)) (short : data.length < 65536)
    (srcMac dstMac : Address) :
    ethernetPack message (some srcMac) dstMac =
      .ok (dstMac.1 ++ srcMac.1 ++ Bytes.ofNat 2 0x888e ++ eapol packetType data) := by
  rw [ethernetPack, pack_eq packed short]
  rfl

end MessagePacker

namespace MessageParser

/-- A message that a frame is made of is read from the frame again, with the
addresses of the frame, whatever padding follows. -/
theorem ethernetParse_ethernetPack {message : EapMessage} (packable : message.Packable)
    (srcMac dstMac : Address) (padding : Bytes) :
    ∃ packed, MessagePacker.ethernetPack message (some srcMac) dstMac = .ok packed ∧
      ethernetParse (packed ++ padding) = .ok (message.sentBy srcMac, dstMac) := by
  obtain ⟨packetType, data, packed, short, read⟩ : ∃ packetType data,
      MessagePacker.eapPack message = .ok (1, packetType, data) ∧ data.length < 65536 ∧
        ∀ padding, oneXParse (eapol packetType data ++ padding) srcMac =
          .ok (message.sentBy srcMac) := by
    cases message with
    | eap source packet =>
        obtain ⟨data, packed, short, read⟩ := Eap.parse_pack packable
        refine ⟨0, data, ?_, short, ?_⟩
        · rw [MessagePacker.eapPack, packed]
          rfl
        · intro padding
          rw [oneXParse, auth8021xParse_eapol 0 padding short, ok_bind]
          simp [eapParse, read, EapMessage.sentBy, pure, Except.pure]
    | eapolStart source =>
        refine ⟨1, [], rfl, by simp, ?_⟩
        intro padding
        rw [oneXParse, auth8021xParse_eapol 1 padding (by simp), ok_bind]
        rfl
    | eapolLogoff source =>
        refine ⟨2, [], rfl, by simp, ?_⟩
        intro padding
        rw [oneXParse, auth8021xParse_eapol 2 padding (by simp), ok_bind]
        rfl
  refine ⟨_, MessagePacker.ethernetPack_eq packed short srcMac dstMac, ?_⟩
  rw [List.append_assoc, ethernetParse, ethernetPacketParse_append, ok_bind]
  simp [read, pure, Except.pure]

/-- An MD5 challenge in a frame that is padded with zeros. -/
theorem md5Challenge_padded :
    ∃ packed,
      MessagePacker.ethernetPack (.eap none (.md5Challenge 1 9 [1, 2, 3] [109]))
        (some ⟨[2, 0, 0, 0, 0, 1], rfl⟩) ⟨[2, 0, 0, 0, 0, 2], rfl⟩ = .ok packed ∧
      ethernetParse (packed ++ List.replicate 32 0) =
        .ok (.eap (some ⟨[2, 0, 0, 0, 0, 1], rfl⟩) (.md5Challenge 1 9 [1, 2, 3] [109]),
          ⟨[2, 0, 0, 0, 0, 2], rfl⟩) := by
  have packable : EapMessage.Packable (.eap none (.md5Challenge 1 9 [1, 2, 3] [109])) :=
    ⟨.inl rfl, by decide, by decide⟩
  exact ethernetParse_ethernetPack packable _ _ _

/-- Whatever its bytes are, a frame is parsed or a `MessageParseError` is raised. -/
theorem ethernetParse_parses_or_reports (packed : Bytes) :
    (∃ message dstMac, ethernetParse packed = .ok (message, dstMac)) ∨
      ∃ error, ethernetParse packed = .error (.messageParse error) := by
  cases outcome : ethernetParse packed with
  | ok parsed => exact .inl ⟨parsed.1, parsed.2, rfl⟩
  | error raised =>
      obtain ⟨error, reported⟩ := ethernetParse_onlyReports packed raised outcome
      exact .inr ⟨error, by rw [reported]⟩

end MessageParser

end Daq.Dot1x
