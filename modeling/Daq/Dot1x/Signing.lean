import Daq.Dot1x.Rehash
import Daq.Dot1x.Survival

namespace Daq.Dot1x

open Fallible

/-! The requests that are built, and what parsing makes of them. -/

/-- What a request is built from: a message that can be packed, and texts and numbers
that their attributes can hold.  A port of zero stands for no port. -/
structure Inquiry where
  srcMac : Address
  message : EapMessage
  data : Bytes
  packed : ∃ version packetType, MessagePacker.eapPack message = .ok (version, packetType, data)
  username : Bytes
  named : Encodable username
  packetId : UInt8
  authenticator : Bytes
  sixteen : authenticator.length = 16
  state : Option Bytes
  stateful : ∀ text, state = some text → Encodable text
  nasPort : Nat
  port : nasPort < 256 ^ 4
  extras : List Attribute
  sized : ∀ attr ∈ extras, attr.WellSized
  plain : ∀ attr ∈ extras, attr.type ≠ .eapMessage ∧ attr.type ≠ .messageAuthenticator

namespace Inquiry

open RadiusAttributesList Datagram

/-- The attributes before the Message-Authenticator. -/
def leading (inquiry : Inquiry) : List Attribute :=
  [⟨.userName, inquiry.username⟩, ⟨.callingStationId, Address.text inquiry.srcMac⟩] ++
    (if inquiry.nasPort ≠ 0 then [⟨.nasPort, Bytes.ofNat 4 inquiry.nasPort⟩] else []) ++
    inquiry.extras ++ [⟨.eapMessage, inquiry.data⟩] ++
    (inquiry.state.toList.map (Attribute.mk .state))

/-- The request with the given value of the Message-Authenticator. -/
def request (inquiry : Inquiry) (mac : Bytes) : RadiusPacket where
  packetType := .accessRequest
  packetId := inquiry.packetId
  authenticator := inquiry.authenticator
  attributes := inquiry.leading ++ [⟨.messageAuthenticator, mac⟩]

/-- The request as it is read back.  A message of EAPOL has no EAP packet, and nothing in
the datagram stands for its empty EAP-Message. -/
def received (inquiry : Inquiry) (mac : Bytes) : RadiusPacket :=
  match inquiry.message with
  | .eap _ _ => inquiry.request mac
  | .eapolStart _ | .eapolLogoff _ =>
      { inquiry.request mac with
        attributes := (inquiry.request mac).attributes.filter fun attr =>
          attr.type ≠ .eapMessage }

def radiusPack (inquiry : Inquiry) (hashes : Hashes) (secret : Bytes) : Except Raised Bytes :=
  MessagePacker.radiusPack hashes inquiry.message inquiry.srcMac (some inquiry.username)
    inquiry.packetId inquiry.authenticator inquiry.state secret inquiry.nasPort inquiry.extras

section Creating

theorem createString_eq {type : AttributeType} {bytes : Bytes} (encodable : Encodable bytes)
    (kind : type.dataType = .text ∨ type.dataType = .string) :
    Attribute.createString type bytes = .ok ⟨type, bytes⟩ := by
  obtain ⟨attr, created, _⟩ := createString_fits encodable kind
  rw [created]
  obtain ⟨_, _, same⟩ := bind_eq_ok_iff.mp created
  exact same.symm

theorem sized_of_encodable {type : AttributeType} {bytes : Bytes} (encodable : Encodable bytes)
    (kind : type.dataType = .text ∨ type.dataType = .string) :
    (Attribute.mk type bytes).WellSized := by
  obtain ⟨attr, created, fits⟩ := createString_fits encodable kind
  cases created.symm.trans (createString_eq encodable kind)
  exact fits.sized

theorem radiusPack_eq (inquiry : Inquiry) (hashes : Hashes) (secret : Bytes) :
    inquiry.radiusPack hashes secret =
      (inquiry.request (List.replicate 16 0)).build hashes secret := by
  have user : Attribute.createString .userName inquiry.username = _ :=
    createString_eq inquiry.named (.inl rfl)
  have calling : Attribute.createString .callingStationId (Address.text inquiry.srcMac) = _ :=
    createString_eq (text_encodable inquiry.srcMac) (.inl rfl)
  have signature : Attribute.createString .messageAuthenticator (List.replicate 16 0) = _ :=
    createString_eq ⟨by decide, by decide⟩ (.inr rfl)
  have message : Attribute.createEapMessage inquiry.message =
      .ok ⟨.eapMessage, inquiry.data⟩ := by
    obtain ⟨version, packetType, packed⟩ := inquiry.packed
    rw [Attribute.createEapMessage, packed]
    rfl
  have port : MessagePacker.createWhen (inquiry.nasPort ≠ 0)
      (Attribute.createNumber .nasPort inquiry.nasPort) =
        .ok (if inquiry.nasPort ≠ 0 then [⟨.nasPort, Bytes.ofNat 4 inquiry.nasPort⟩] else []) := by
    rw [MessagePacker.createWhen, Attribute.createNumber, if_pos inquiry.port]
    split
    · rfl
    · rfl
  have state : MessagePacker.createWhen (inquiry.state.getD [] ≠ [])
      (Attribute.createString .state (inquiry.state.getD [])) =
        .ok (inquiry.state.toList.map (Attribute.mk .state)) := by
    rw [MessagePacker.createWhen]
    cases given : inquiry.state with
    | none => rfl
    | some text =>
        have encodable := inquiry.stateful text given
        have filled : text ≠ [] := List.length_pos_iff.mp encodable.1
        rw [Option.getD_some, if_pos filled, createString_eq encodable (.inr rfl)]
        rfl
  rw [radiusPack, MessagePacker.radiusPack]
  simp only [Option.mapM_some, user, calling, signature, message, port, state, ok_bind]
  rfl

end Creating

section Listing

theorem pack_ne_nil {packet : Eap} {data : Bytes} (packed : packet.pack = .ok data) :
    data ≠ [] := by
  have typed : ∀ {code packetId packetType : UInt8} {body : Bytes},
      Eap.packTyped code packetId packetType body = .ok data → data ≠ [] := by
    intro code packetId packetType body done
    obtain ⟨length, _, same⟩ := bind_eq_ok_iff.mp done
    cases same
    simp
  cases packet with
  | identity code packetId text => exact typed packed
  | md5Challenge code packetId challenge extraData =>
      obtain ⟨_, _, done⟩ := bind_eq_ok_iff.mp packed
      exact typed done
  | success packetId =>
      cases packed
      simp
  | failure packetId =>
      cases packed
      simp
  | legacyNak code packetId desiredAuthTypes =>
      obtain ⟨_, _, done⟩ := bind_eq_ok_iff.mp packed
      exact typed done
  | tls kind code packetId flags extraData => exact typed packed

theorem leading_cases (inquiry : Inquiry) {attr : Attribute} (member : attr ∈ inquiry.leading) :
    attr = ⟨.eapMessage, inquiry.data⟩ ∨
      attr.WellSized ∧ attr.type ≠ .eapMessage ∧ attr.type ≠ .messageAuthenticator := by
  simp only [leading, List.mem_append, List.mem_cons, List.not_mem_nil, or_false, List.mem_map,
    Option.mem_toList] at member
  rcases member with ((((rfl | rfl) | port) | extra) | rfl) | ⟨text, given, rfl⟩
  · exact .inr ⟨sized_of_encodable inquiry.named (.inl rfl), by simp, by simp⟩
  · exact .inr ⟨sized_of_encodable (text_encodable inquiry.srcMac) (.inl rfl), by simp, by simp⟩
  · split at port
    · cases List.mem_singleton.mp port
      refine .inr ⟨fun _ => ?_, by simp, by simp⟩
      simp [AttributeType.dataType, DataType.minDataLength, DataType.maxDataLength]
    · cases port
  · exact .inr ⟨inquiry.sized attr extra, inquiry.plain attr extra⟩
  · exact .inl rfl
  · exact .inr ⟨sized_of_encodable (inquiry.stateful text given) (.inr rfl), by simp, by simp⟩

theorem leading_unsigned (inquiry : Inquiry) :
    ∀ attr ∈ inquiry.leading, attr.type ≠ .messageAuthenticator := by
  intro attr member
  rcases inquiry.leading_cases member with rfl | ⟨_, _, other⟩
  · simp
  · exact other

theorem request_sized (inquiry : Inquiry) {mac : Bytes} (sixteen : mac.length = 16) :
    ∀ attr ∈ (inquiry.request mac).attributes, attr.WellSized := by
  intro attr member
  rcases List.mem_append.mp member with inside | last
  · rcases inquiry.leading_cases inside with rfl | ⟨sized, _⟩
    · exact fun other => absurd rfl other
    · exact sized
  · cases List.mem_singleton.mp last
    exact sized_of_encodable ⟨by omega, by omega⟩ (.inr rfl)

theorem request_once (inquiry : Inquiry) (mac : Bytes) :
    ((inquiry.request mac).attributes.filter fun attr => attr.type = .eapMessage).length ≤ 1 := by
  have none : ∀ {list : List Attribute}, (∀ attr ∈ list, attr.type ≠ .eapMessage) →
      list.filter (fun attr => attr.type = .eapMessage) = [] := by
    intro list others
    apply List.filter_eq_nil_iff.mpr
    intro attr member
    simpa using others attr member
  have extras := none fun attr member => (inquiry.plain attr member).1
  have state : (inquiry.state.toList.map (Attribute.mk .state)).filter
      (fun attr => attr.type = .eapMessage) = [] := by
    apply none
    intro attr member
    obtain ⟨text, _, rfl⟩ := List.mem_map.mp member
    simp
  have port : (if inquiry.nasPort ≠ 0 then
      [(⟨.nasPort, Bytes.ofNat 4 inquiry.nasPort⟩ : Attribute)] else []).filter
        (fun attr => attr.type = .eapMessage) = [] := by
    split
    · rfl
    · rfl
  simp only [request, leading, List.filter_append, extras, state, port]
  simp

theorem request_filled (inquiry : Inquiry) {mac : Bytes} (sixteen : mac.length = 16)
    {attr : Attribute} (member : attr ∈ (inquiry.request mac).attributes)
    (other : attr.type ≠ .eapMessage) : attr.bytesData ≠ [] := by
  intro empty
  have bounds := inquiry.request_sized sixteen attr member
    (fun concat => other (Attribute.concat_iff.mp concat))
  rw [empty, List.length_nil] at bounds
  cases kind : attr.type.dataType <;> simp [kind, DataType.minDataLength] at bounds

theorem request_eapMessage (inquiry : Inquiry) {mac : Bytes} {attr : Attribute}
    (member : attr ∈ (inquiry.request mac).attributes) (isEap : attr.type = .eapMessage) :
    attr.bytesData = inquiry.data := by
  rcases List.mem_append.mp member with inside | last
  · rcases inquiry.leading_cases inside with rfl | ⟨_, other, _⟩
    · rfl
    · exact absurd isEap other
  · cases List.mem_singleton.mp last
    cases isEap

theorem received_eq (inquiry : Inquiry) {mac : Bytes} (sixteen : mac.length = 16) :
    inquiry.received mac =
      { inquiry.request mac with
        attributes := (inquiry.request mac).attributes.filter fun attr => attr.bytesData ≠ [] } := by
  obtain ⟨version, packetType, packed⟩ := inquiry.packed
  have eapol (empty : inquiry.data = []) :
      (inquiry.request mac).attributes.filter (fun attr => attr.type ≠ .eapMessage) =
        (inquiry.request mac).attributes.filter fun attr => attr.bytesData ≠ [] := by
    apply List.filter_congr
    intro attr member
    by_cases isEap : attr.type = .eapMessage
    · simp [isEap, inquiry.request_eapMessage member isEap, empty]
    · simp [isEap, inquiry.request_filled sixteen member isEap]
  unfold received
  cases same : inquiry.message with
  | eap source packet =>
      rw [same] at packed
      obtain ⟨data, done, given⟩ := bind_eq_ok_iff.mp packed
      cases given
      have all : (inquiry.request mac).attributes.filter (fun attr => attr.bytesData ≠ []) =
          (inquiry.request mac).attributes := by
        apply List.filter_eq_self.mpr
        intro attr member
        by_cases isEap : attr.type = .eapMessage
        · simpa [inquiry.request_eapMessage member isEap] using pack_ne_nil done
        · simpa using inquiry.request_filled sixteen member isEap
      rw [all]
  | eapolStart source | eapolLogoff source =>
      rw [same, MessagePacker.eapPack, Except.ok.injEq, Prod.mk.injEq, Prod.mk.injEq] at packed
      dsimp only
      rw [eapol packed.2.2.symm]

end Listing

section Signing

variable {inquiry : Inquiry} {hashes : Hashes} {secret : Bytes}

/-- The bytes of a request up to the value of its Message-Authenticator. -/
def front (inquiry : Inquiry) : Bytes :=
  [1, inquiry.packetId] ++ Bytes.ofNat 2 (38 + length inquiry.leading) ++
    inquiry.authenticator ++ encode (inquiry.leading.flatMap Attribute.fragments) ++ [80, 18]

theorem leading_sized (inquiry : Inquiry) : ∀ attr ∈ inquiry.leading, attr.WellSized := by
  intro attr member
  rcases inquiry.leading_cases member with rfl | ⟨sized, _⟩
  · exact fun other => absurd rfl other
  · exact sized

theorem length_request (inquiry : Inquiry) {mac : Bytes} (sixteen : mac.length = 16) :
    length (inquiry.request mac).attributes = length inquiry.leading + 18 := by
  have signature : (Attribute.mk .messageAuthenticator mac).fullLength = 18 := by
    simp [Attribute.fullLength, AttributeType.dataType, Attribute.dataLength, sixteen]
  simp [request, signature]

theorem length_front (inquiry : Inquiry) : inquiry.front.length = 20 + length inquiry.leading + 2 := by
  simp [front, length_encode inquiry.leading_sized, inquiry.sixteen]
  omega

theorem bytes_request (inquiry : Inquiry) {mac : Bytes} (sixteen : mac.length = 16) :
    (repacked (inquiry.request mac)).bytes = inquiry.front ++ mac := by
  have signature : Attribute.fragments ⟨.messageAuthenticator, mac⟩ =
      [⟨.messageAuthenticator, mac⟩] := Attribute.fragments_of_ne (by simp)
  have size : 20 + (length inquiry.leading + 18) = 38 + length inquiry.leading := by omega
  simp only [bytes, repacked, length_encode (inquiry.request_sized sixteen),
    inquiry.length_request sixteen, size]
  simp [request, signature, front, Attribute.encoded, sixteen, AttributeType.type, PacketType.code]

theorem pack_request (short : 38 + length inquiry.leading < 65536) :
    (inquiry.request (List.replicate 16 0)).pack =
      .ok (repacked (inquiry.request (List.replicate 16 0))).bytes := by
  have size := @length_request inquiry (List.replicate 16 0) rfl
  exact pack_repacked (inquiry.request_sized rfl) inquiry.sixteen (by omega)

theorem build_eq (short : 38 + length inquiry.leading < 65536) (keyed : secret ≠ []) :
    (inquiry.request (List.replicate 16 0)).build hashes secret =
      .ok (repacked (inquiry.request (hashes.hmacMd5 secret
        (repacked (inquiry.request (List.replicate 16 0))).bytes))).bytes := by
  have position : indexof (inquiry.request (List.replicate 16 0)).attributes
      (AttributeType.description .messageAuthenticator) = .ok (length inquiry.leading) := by
    apply indexof_eq
    intro other member same
    exact inquiry.leading_unsigned other member ((description_eq_iff _).mp same.symm)
  rw [RadiusPacket.build, pack_request short, ok_bind, position]
  dsimp only
  rw [if_pos keyed, inquiry.bytes_request (hashes.length_hmacMd5 _ _),
    inquiry.bytes_request (List.length_replicate)]
  have taken : (inquiry.front ++ List.replicate 16 0).take (length inquiry.leading + 20 + 2) =
      inquiry.front := by
    apply List.take_left'
    rw [inquiry.length_front]
    omega
  have dropped : (inquiry.front ++ List.replicate 16 0).drop
      (length inquiry.leading + 20 + 2 + 16) = [] := by
    apply List.drop_eq_nil_of_le
    rw [List.length_append, inquiry.length_front, List.length_replicate]
    omega
  rw [taken, dropped, List.append_nil]
  rfl

theorem build_too_long (long : ¬ 38 + length inquiry.leading < 65536) :
    (inquiry.request (List.replicate 16 0)).build hashes secret = .error .structError := by
  have size := @length_request inquiry (List.replicate 16 0) rfl
  have overflow : ¬ 20 + length (inquiry.request (List.replicate 16 0)).attributes < 256 ^ 2 := by
    omega
  rw [RadiusPacket.build, RadiusPacket.pack, packUnsigned, if_neg overflow]
  rfl

end Signing

section Checking

variable {inquiry : Inquiry} {hashes : Hashes} {secret : Bytes}

theorem fragments_filled {attributes : List Attribute}
    (sized : ∀ attr ∈ attributes, attr.WellSized) :
    (attributes.filter fun attr => attr.bytesData ≠ []).flatMap Attribute.fragments =
      attributes.flatMap Attribute.fragments := by
  induction attributes with
  | nil => rfl
  | cons attr rest later =>
      have behind := later fun other member => sized other (List.mem_cons_of_mem _ member)
      by_cases empty : attr.bytesData = []
      · have concat : attr.type.dataType = .concat := by
          by_contra other
          have bounds := sized attr List.mem_cons_self other
          rw [empty, List.length_nil] at bounds
          cases kind : attr.type.dataType <;> simp [kind, DataType.minDataLength] at bounds
        have none : attr.fragments = [] := by
          rw [Attribute.fragments, if_pos concat, empty, Chunks.cut_nil (by decide)]
          rfl
        rw [List.filter_cons_of_neg (by simpa using empty), behind, List.flatMap_cons, none]
        rfl
      · rw [List.filter_cons_of_pos (by simpa using empty), List.flatMap_cons, behind,
          List.flatMap_cons]

theorem bytes_received (inquiry : Inquiry) {mac : Bytes} (sixteen : mac.length = 16) :
    (repacked (inquiry.received mac)).bytes = (repacked (inquiry.request mac)).bytes := by
  rw [inquiry.received_eq sixteen, repacked, fragments_filled (inquiry.request_sized sixteen)]
  rfl

theorem received_attributes (inquiry : Inquiry) {mac : Bytes} (sixteen : mac.length = 16) :
    (inquiry.received mac).attributes =
      (inquiry.leading.filter fun attr => attr.bytesData ≠ []) ++
        [⟨.messageAuthenticator, mac⟩] := by
  have some : mac ≠ [] := by
    intro empty
    rw [empty] at sixteen
    cases sixteen
  rw [inquiry.received_eq sixteen]
  simp [request, some]

theorem zero_append {leading : List Attribute}
    (unsigned : ∀ attr ∈ leading, attr.type ≠ .messageAuthenticator) (mac : Bytes) :
    RadiusPacket.zeroMessageAuthenticator (leading ++ [⟨.messageAuthenticator, mac⟩]) =
      leading ++ [⟨.messageAuthenticator, List.replicate 16 0⟩] := by
  induction leading with
  | nil => rfl
  | cons attr rest later =>
      have behind := later fun other member => unsigned other (List.mem_cons_of_mem _ member)
      rw [List.cons_append, RadiusPacket.zeroMessageAuthenticator,
        if_neg (unsigned attr List.mem_cons_self), behind]
      rfl

theorem find_append {leading : List Attribute}
    (unsigned : ∀ attr ∈ leading, attr.type ≠ .messageAuthenticator) (mac : Bytes) :
    messageAuthenticator (leading ++ [⟨.messageAuthenticator, mac⟩]) =
      some ⟨.messageAuthenticator, mac⟩ := by
  have none : leading.find? (fun attr => attr.type = .messageAuthenticator) = none := by
    rw [List.find?_eq_none]
    intro attr member
    simpa using unsigned attr member
  rw [messageAuthenticator, List.find?_append, none]
  rfl

theorem mem_received (inquiry : Inquiry) {mac : Bytes} (sixteen : mac.length = 16)
    {attr : Attribute} (member : attr ∈ (inquiry.received mac).attributes) :
    attr ∈ (inquiry.request mac).attributes ∧ attr.bytesData ≠ [] := by
  rw [inquiry.received_eq sixteen] at member
  simpa using List.mem_filter.mp member

theorem received_sized (inquiry : Inquiry) {mac : Bytes} (sixteen : mac.length = 16) :
    ∀ attr ∈ (inquiry.received mac).attributes, attr.WellSized :=
  fun attr member => inquiry.request_sized sixteen attr (inquiry.mem_received sixteen member).1

theorem length_received (inquiry : Inquiry) {mac : Bytes} (sixteen : mac.length = 16) :
    length (inquiry.received mac).attributes = length inquiry.leading + 18 := by
  rw [← length_encode (inquiry.received_sized sixteen), inquiry.received_eq sixteen,
    fragments_filled (inquiry.request_sized sixteen),
    length_encode (inquiry.request_sized sixteen), inquiry.length_request sixteen]

theorem received_header (inquiry : Inquiry) {mac : Bytes} (sixteen : mac.length = 16) :
    (inquiry.received mac).authenticator = inquiry.authenticator ∧
      (inquiry.received mac).packetType = .accessRequest := by
  rw [inquiry.received_eq sixteen]
  exact ⟨rfl, rfl⟩

theorem readPacket_received (short : 38 + length inquiry.leading < 65536) {mac : Bytes}
    (sixteen : mac.length = 16) :
    Radius.readPacket (repacked (inquiry.received mac)).bytes = .ok (inquiry.received mac) := by
  have sized := inquiry.received_sized sixteen
  have once : ((inquiry.received mac).attributes.filter
      fun attr => attr.type = .eapMessage).length ≤ 1 := by
    rw [inquiry.received_eq sixteen]
    exact Nat.le_trans (List.Sublist.length_le (List.filter_sublist.filter _))
      (inquiry.request_once mac)
  have formed : (repacked (inquiry.received mac)).WellFormed := by
    refine ⟨?_, fragments_all_fit sized, ?_⟩
    · exact (congrArg List.length (inquiry.received_header sixteen).1).trans inquiry.sixteen
    · rw [repacked, length_encode sized, inquiry.length_received sixteen]
      omega
  exact readPacket_bytes formed
    (parse_encode_fragments sized (fun _ member _ => (inquiry.mem_received sixteen member).2) once)

theorem parse_request (short : 38 + length inquiry.leading < 65536) (keyed : secret ≠ [])
    {mac : Bytes} (hash : mac = hashes.hmacMd5 secret
      (repacked (inquiry.request (List.replicate 16 0))).bytes) (table : Dict UInt8 Bytes) :
    Radius.parse hashes (repacked (inquiry.request mac)).bytes secret table =
      .ok (inquiry.received mac) := by
  have sixteen : mac.length = 16 := by
    rw [hash]
    exact hashes.length_hmacMd5 _ _
  have header := inquiry.received_header sixteen
  have total := inquiry.length_received sixteen
  have unsigned : ∀ attr ∈ inquiry.leading.filter (fun attr => attr.bytesData ≠ []),
      attr.type ≠ .messageAuthenticator :=
    fun attr member => inquiry.leading_unsigned attr (List.mem_filter.mp member).1
  have signed : messageAuthenticator (inquiry.received mac).attributes =
      some ⟨.messageAuthenticator, mac⟩ := by
    rw [inquiry.received_attributes sixteen, find_append unsigned]
  have message := @validateMessage_eq_ok_iff hashes (inquiry.received mac) secret
    inquiry.authenticator _ (inquiry.received_sized sixteen) (by omega) inquiry.sixteen signed
    sixteen
  have zeroes : RadiusPacket.zeroMessageAuthenticator (inquiry.received mac).attributes =
      (inquiry.received (List.replicate 16 0)).attributes := by
    rw [inquiry.received_attributes sixteen, zero_append unsigned,
      inquiry.received_attributes List.length_replicate]
  rw [← inquiry.bytes_received sixteen]
  apply parse_eq_ok_iff.mpr
  refine ⟨inquiry.authenticator, readPacket_received short sixteen, ?_, keyed, ?_, ?_⟩
  · rw [Radius.requestAuthenticator, if_pos header.2, header.1]
  · rw [RadiusPacket.validateResponseAuthenticator, if_neg fun both => both.2 header.2]
  · apply message.mpr
    refine hash.trans (congrArg (hashes.hmacMd5 secret) ?_)
    rw [← inquiry.bytes_received List.length_replicate, zeroes, inquiry.received_eq sixteen,
      inquiry.received_eq List.length_replicate]
    rfl

end Checking

/-- For everything a request can be built from: if the request fits its length field, it is
built, and parsing accepts what was built as that request with the hash of the packet
as its Message-Authenticator; otherwise building it raises. -/
theorem radiusPack_parse (inquiry : Inquiry) (hashes : Hashes) {secret : Bytes}
    (keyed : secret ≠ []) (table : Dict UInt8 Bytes) :
    (38 + length inquiry.leading < 65536 →
      ∃ zeroed sent, (inquiry.request (List.replicate 16 0)).pack = .ok zeroed ∧
        inquiry.radiusPack hashes secret = .ok sent ∧
        Radius.parse hashes sent secret table =
          .ok (inquiry.received (hashes.hmacMd5 secret zeroed))) ∧
      (¬ 38 + length inquiry.leading < 65536 →
        inquiry.radiusPack hashes secret = .error .structError) := by
  rw [inquiry.radiusPack_eq hashes secret]
  constructor
  · intro short
    exact ⟨_, _, pack_request short, build_eq short keyed, parse_request short keyed rfl table⟩
  · intro long
    exact build_too_long long

end Inquiry

namespace Sample

open RadiusAttributesList Inquiry

theorem user_encodable : Encodable [117, 115, 101, 114] := by
  simp [Encodable]

theorem stateless (text : Bytes) (some : none = Option.some text) : Encodable text := by
  cases some

theorem nines_length : (List.replicate 16 (9 : UInt8)).length = 16 := rfl

/-- A request for one user. -/
def inquiry (message : EapMessage) (data : Bytes)
    (packed : ∃ version packetType,
      MessagePacker.eapPack message = .ok (version, packetType, data))
    (extras : List Attribute) (sized : ∀ attr ∈ extras, attr.WellSized)
    (plain : ∀ attr ∈ extras, attr.type ≠ .eapMessage ∧ attr.type ≠ .messageAuthenticator) :
    Inquiry where
  srcMac := supplicant
  message
  data
  packed
  username := [117, 115, 101, 114]
  named := user_encodable
  packetId := 0
  authenticator := List.replicate 16 9
  sixteen := nines_length
  state := none
  stateful := stateless
  nasPort := 0
  port := by decide
  extras
  sized
  plain

def succeeding : Inquiry :=
  inquiry (.eap none (.success 7)) [3, 7, 0, 4] ⟨1, 0, rfl⟩ [] (by simp) (by simp)

theorem succeeding_parse :
    ∃ zeroed sent, (succeeding.request (List.replicate 16 0)).pack = .ok zeroed ∧
      succeeding.radiusPack lengths [115] = .ok sent ∧
      Radius.parse lengths sent [115] Dict.empty =
        .ok (succeeding.received (lengths.hmacMd5 [115] zeroed)) :=
  (succeeding.radiusPack_parse lengths (by simp) Dict.empty).1 (by decide)

/-- Too many attributes for one packet. -/
def crowded : Inquiry :=
  inquiry (.eap none (.success 7)) [3, 7, 0, 4] ⟨1, 0, rfl⟩
    (List.replicate 22000 ⟨.replyMessage, [97]⟩)
    (by
      intro attr member
      cases (List.mem_replicate.mp member).2
      exact fun _ => by decide)
    (by
      intro attr member
      cases (List.mem_replicate.mp member).2
      simp)

def starting : Inquiry :=
  inquiry (.eapolStart none) [] ⟨1, 1, rfl⟩ [] (by simp) (by simp)

/-- A request that is too long is not built, and one for a message of EAPOL comes back
without its EAP-Message. -/
theorem requests_not_returned :
    crowded.radiusPack lengths [115] = .error .structError ∧
      ∃ sent, starting.radiusPack lengths [115] = .ok sent ∧
        ∀ mac, Radius.parse lengths sent [115] Dict.empty ≠ .ok (starting.request mac) := by
  constructor
  · have many : length crowded.extras = 66000 := by
      rw [crowded, inquiry, length, List.map_replicate, List.sum_replicate]
      rfl
    rw [crowded.radiusPack_eq]
    apply build_too_long
    simp only [leading, length_append, many]
    omega
  · have short : 38 + length starting.leading < 65536 := by decide
    have built := @build_eq starting lengths [115] short (by simp)
    rw [← starting.radiusPack_eq] at built
    refine ⟨_, built, ?_⟩
    intro mac returned
    rw [@parse_request starting lengths [115] short (by simp) _ rfl] at returned
    injection returned with same
    have listed : Attribute.mk .eapMessage [] ∈ (starting.request mac).attributes := by
      simp [request, leading, starting, inquiry]
    rw [← same] at listed
    exact (starting.mem_received (lengths.length_hmacMd5 _ _) listed).2 rfl

end Sample

end Daq.Dot1x
