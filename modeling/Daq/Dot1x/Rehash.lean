import Daq.Dot1x.Wire

namespace Daq.Dot1x

open Fallible

/-! The bytes that a response was hashed over and the bytes that are hashed to check it. -/

/-- A datagram with its attributes as they stand in it. -/
structure Datagram where
  packetType : PacketType
  packetId : UInt8
  authenticator : Bytes
  wire : List Attribute

namespace Datagram

open RadiusAttributesList

/-- The length field holds the length of the datagram. -/
def bytes (datagram : Datagram) : Bytes :=
  [datagram.packetType.code, datagram.packetId] ++
    Bytes.ofNat 2 (20 + (encode datagram.wire).length) ++ datagram.authenticator ++
      encode datagram.wire

structure WellFormed (datagram : Datagram) : Prop where
  authenticator : datagram.authenticator.length = 16
  fits : ∀ attr ∈ datagram.wire, attr.Fits
  short : 20 + (encode datagram.wire).length < 65536

def messageAuthenticator (attributes : List Attribute) : Option Attribute :=
  attributes.find? fun attr => attr.type = .messageAuthenticator

/-- The first Message-Authenticator with its value zeroed. -/
def zeroed : List Attribute → List Attribute
  | [] => []
  | attr :: rest =>
      if attr.type = .messageAuthenticator then
        { attr with bytesData := List.replicate attr.bytesData.length 0 } :: rest
      else attr :: zeroed rest

/-- The hashes in a response, over the received bytes with the authenticator of the
request in place. -/
structure Authentic (hashes : Hashes) (secret request : Bytes) (datagram : Datagram) :
    Prop where
  response : datagram.authenticator =
    hashes.md5 ({ datagram with authenticator := request }.bytes ++ secret)
  message : ∀ attr, messageAuthenticator datagram.wire = some attr →
    attr.bytesData = hashes.hmacMd5 secret
      { datagram with authenticator := request, wire := zeroed datagram.wire }.bytes

/-- The pieces of the EAP-Message follow each other, and all but the last are full. -/
def Tidy (wire : List Attribute) : Prop :=
  ∃ before parts after, wire = before ++ parts.map (Attribute.mk .eapMessage) ++ after ∧
    (∀ attr ∈ before, attr.type ≠ .eapMessage) ∧
    (∀ attr ∈ after, attr.type ≠ .eapMessage) ∧ Chunks.IsCut 253 parts

/-- What is hashed again are the attributes of the parsed packet. -/
def repacked (packet : RadiusPacket) : Datagram where
  packetType := packet.packetType
  packetId := packet.packetId
  authenticator := packet.authenticator
  wire := packet.attributes.flatMap Attribute.fragments

section Repacking

theorem pack_repacked {packet : RadiusPacket} (sized : ∀ attr ∈ packet.attributes, attr.WellSized)
    (authenticator : packet.authenticator.length = 16)
    (short : 20 + length packet.attributes < 65536) :
    packet.pack = .ok (repacked packet).bytes := by
  have room : 20 + length packet.attributes < 256 ^ 2 := short
  rw [RadiusPacket.pack, packUnsigned_eq_ok room, pack_encode sized]
  simp [packChars, bytes, repacked, length_encode sized, authenticator, pure, Except.pure]

theorem description_eq_iff (type : AttributeType) :
    AttributeType.description .messageAuthenticator = type.description ↔
      type = .messageAuthenticator := by
  cases type <;> decide

theorem find_eq (attributes : List Attribute) :
    find attributes (AttributeType.description .messageAuthenticator) =
      messageAuthenticator attributes := by
  simp only [find, messageAuthenticator, beq_eq_decide, description_eq_iff]

theorem zeroed_append {first second : List Attribute}
    (none : ∀ attr ∈ first, attr.type ≠ .messageAuthenticator) :
    zeroed (first ++ second) = first ++ zeroed second := by
  induction first with
  | nil => rfl
  | cons attr rest later =>
      rw [List.cons_append, zeroed, if_neg (none attr List.mem_cons_self),
        later fun other member => none other (List.mem_cons_of_mem _ member)]
      rfl

theorem zeroed_fragments {attributes : List Attribute}
    (sixteen : ∀ attr, messageAuthenticator attributes = some attr → attr.bytesData.length = 16) :
    (RadiusPacket.zeroMessageAuthenticator attributes).flatMap Attribute.fragments =
      zeroed (attributes.flatMap Attribute.fragments) := by
  induction attributes with
  | nil => rfl
  | cons attr rest later =>
      by_cases same : attr.type = .messageAuthenticator
      · have length := sixteen attr (by simp [messageAuthenticator, same])
        have single : ∀ value,
            Attribute.fragments { attr with bytesData := value } =
              [{ attr with bytesData := value }] :=
          fun value => Attribute.fragments_of_ne (by rw [same]; decide)
        rw [RadiusPacket.zeroMessageAuthenticator, if_pos same, List.flatMap_cons, single,
          List.flatMap_cons, Attribute.fragments_of_ne (by rw [same]; decide),
          List.singleton_append, List.singleton_append, zeroed, if_pos same, length]
      · have behind := later (by simpa [messageAuthenticator, same] using sixteen)
        rw [RadiusPacket.zeroMessageAuthenticator, if_neg same, List.flatMap_cons, behind,
          List.flatMap_cons, zeroed_append]
        intro fragment member
        by_cases isEap : attr.type = .eapMessage
        · rw [Attribute.fragments, if_pos (Attribute.concat_iff.mpr isEap)] at member
          obtain ⟨piece, _, rfl⟩ := List.mem_map.mp member
          exact same
        · rw [Attribute.fragments_of_ne isEap] at member
          cases List.mem_singleton.mp member
          exact same

theorem length_zeroMessageAuthenticator {attributes : List Attribute}
    (sized : ∀ attr ∈ attributes, attr.WellSized)
    (sixteen : ∀ attr, messageAuthenticator attributes = some attr → attr.bytesData.length = 16) :
    length (RadiusPacket.zeroMessageAuthenticator attributes) = length attributes := by
  induction attributes with
  | nil => rfl
  | cons attr rest later =>
      by_cases same : attr.type = .messageAuthenticator
      · have single : attr.type.dataType ≠ .concat := by
          rw [same]
          decide
        have value := sixteen attr (by simp [messageAuthenticator, same])
        have old := (sized attr List.mem_cons_self).fullLength single
        rw [RadiusPacket.zeroMessageAuthenticator, if_pos same, length_cons, length_cons, old]
        rw [value, same]
        rfl
      · have behind := later (fun other member => sized other (List.mem_cons_of_mem _ member))
          (by simpa [messageAuthenticator, same] using sixteen)
        rw [RadiusPacket.zeroMessageAuthenticator, if_neg same, length_cons, length_cons, behind]

end Repacking

section Accepting

variable {hashes : Hashes} {packet : RadiusPacket} {secret request : Bytes}

theorem validateResponse_eq_ok_iff (sized : ∀ attr ∈ packet.attributes, attr.WellSized)
    (short : 20 + length packet.attributes < 65536) (response : packet.packetType ≠ .accessRequest)
    (sixteen : request.length = 16) :
    packet.validateResponseAuthenticator hashes request secret = .ok () ↔
      packet.authenticator =
        hashes.md5 ((repacked { packet with authenticator := request }).bytes ++ secret) := by
  have given : request ≠ [] := by
    intro empty
    rw [empty] at sixteen
    cases sixteen
  have packed := @pack_repacked { packet with authenticator := request } sized sixteen short
  rw [RadiusPacket.validateResponseAuthenticator, if_pos ⟨given, response⟩, packed, ok_bind]
  split
  · rename_i differs
    simp only [throw, throwThe, MonadExceptOf.throw, reduceCtorEq, false_iff]
    exact fun same => differs same.symm
  · rename_i equal
    simp only [pure, Except.pure, true_iff]
    exact (not_not.mp equal).symm

theorem validateMessage_unsigned (unsigned : messageAuthenticator packet.attributes = none) :
    packet.validateMessageAuthenticator hashes secret request = .ok () := by
  rw [RadiusPacket.validateMessageAuthenticator, find_eq, unsigned]

theorem validateMessage_eq_ok_iff {attr : Attribute}
    (sized : ∀ attr ∈ packet.attributes, attr.WellSized)
    (short : 20 + length packet.attributes < 65536) (sixteen : request.length = 16)
    (signed : messageAuthenticator packet.attributes = some attr)
    (value : attr.bytesData.length = 16) :
    packet.validateMessageAuthenticator hashes secret request = .ok () ↔
      attr.bytesData = hashes.hmacMd5 secret
        (repacked { packet with
          authenticator := request
          attributes := RadiusPacket.zeroMessageAuthenticator packet.attributes }).bytes := by
  have all : ∀ other, messageAuthenticator packet.attributes = some other →
      other.bytesData.length = 16 := by
    intro other found
    cases signed.symm.trans found
    exact value
  have packed := @pack_repacked
    { packet with
      authenticator := request
      attributes := RadiusPacket.zeroMessageAuthenticator packet.attributes }
    (RadiusPacket.zeroMessageAuthenticator_sized sized).1 sixteen
    (by rw [length_zeroMessageAuthenticator sized all]; exact short)
  rw [RadiusPacket.validateMessageAuthenticator, find_eq, signed]
  dsimp only
  rw [packed, ok_bind]
  split
  · rename_i differs
    simp only [throw, throwThe, MonadExceptOf.throw, reduceCtorEq, false_iff]
    exact differs
  · rename_i equal
    simp only [pure, Except.pure, true_iff]
    exact not_not.mp equal

theorem validateMessage_other_length {attr : Attribute}
    (signed : messageAuthenticator packet.attributes = some attr)
    (value : attr.bytesData.length ≠ 16) :
    packet.validateMessageAuthenticator hashes secret request ≠ .ok () := by
  intro valid
  rw [RadiusPacket.validateMessageAuthenticator, find_eq, signed] at valid
  obtain ⟨packed, _, compared⟩ := bind_eq_ok_iff.mp valid
  split at compared
  · cases compared
  · rename_i equal
    rw [not_not.mp equal] at value
    exact value (hashes.length_hmacMd5 _ _)

end Accepting

section Reading

variable {datagram : Datagram}

theorem drop_bytes (sixteen : datagram.authenticator.length = 16) :
    datagram.bytes.drop 20 = encode datagram.wire := by
  simp [bytes, Bytes.ofNat, sixteen]

theorem readPacket_bytes (formed : datagram.WellFormed) {attributes : List Attribute}
    (parsed : RadiusAttributesList.parse (encode datagram.wire) = .ok attributes) :
    Radius.readPacket datagram.bytes =
      .ok { packetType := datagram.packetType, packetId := datagram.packetId,
            authenticator := datagram.authenticator, attributes } := by
  have sixteen := formed.authenticator
  apply readPacket_eq_ok_iff.mpr
  constructor
  · simp [bytes, Bytes.ofNat, Radius.unpackHeader, sixteen]
  · rw [drop_bytes sixteen]
    exact parsed

theorem messageAuthenticator_insertAt (attributes : List Attribute) (index : Int) (data : Bytes) :
    messageAuthenticator (insertAt attributes index ⟨.eapMessage, data⟩) =
      messageAuthenticator attributes := by
  have parts := congrArg messageAuthenticator (List.take_append_drop index.toNat attributes)
  rw [messageAuthenticator, List.find?_append] at parts
  rw [insertAt, messageAuthenticator, List.find?_append]
  simpa using parts

/-- Merging the pieces moves the EAP-Message and leaves the other attributes alone. -/
theorem messageAuthenticator_parse (formed : datagram.WellFormed) {attributes : List Attribute}
    (parsed : RadiusAttributesList.parse (encode datagram.wire) = .ok attributes) :
    messageAuthenticator attributes = messageAuthenticator datagram.wire := by
  rcases parse_encode_eq formed.fits with ⟨same, _⟩ | ⟨index, data, merged⟩
  · rw [same] at parsed
    cases parsed
    rfl
  · rw [merged] at parsed
    cases parsed
    have kept : messageAuthenticator (datagram.wire.filter fun attr => attr.type ≠ .eapMessage) =
        messageAuthenticator datagram.wire := by
      rw [messageAuthenticator, List.find?_filter]
      apply congrArg (fun test => List.find? test datagram.wire)
      funext attr
      by_cases same : attr.type = .messageAuthenticator
      · simp [same]
      · simp [same]
    rw [messageAuthenticator_insertAt, kept]

/-- Packing the merged attributes gives the received ones back exactly if these are tidy. -/
theorem fragments_eq_wire_iff (formed : datagram.WellFormed) {attributes : List Attribute}
    (parsed : RadiusAttributesList.parse (encode datagram.wire) = .ok attributes) :
    attributes.flatMap Attribute.fragments = datagram.wire ↔ Tidy datagram.wire := by
  constructor
  · intro same
    rcases parse_encode_eq formed.fits with ⟨_, others⟩ | ⟨index, data, merged⟩
    · exact ⟨datagram.wire, [], [], by simp, others, List.forall_mem_nil _, trivial⟩
    · rw [merged] at parsed
      cases parsed
      have others : ∀ attr ∈ datagram.wire.filter (fun attr => attr.type ≠ .eapMessage),
          attr.type ≠ .eapMessage := by
        intro attr member
        simpa using (List.mem_filter.mp member).2
      have earlier : ∀ attr ∈ (datagram.wire.filter fun attr => attr.type ≠ .eapMessage).take
          index.toNat, attr.type ≠ .eapMessage :=
        fun attr member => others attr (List.mem_of_mem_take member)
      have later : ∀ attr ∈ (datagram.wire.filter fun attr => attr.type ≠ .eapMessage).drop
          index.toNat, attr.type ≠ .eapMessage :=
        fun attr member => others attr (List.mem_of_mem_drop member)
      rw [insertAt, List.flatMap_append, List.flatMap_cons, fragments_others earlier,
        fragments_others later, Attribute.fragments_eapMessage, ← List.append_assoc] at same
      exact ⟨_, _, _, same.symm, earlier, later, (Chunks.isCut_cut (by decide) data).1⟩
  · rintro ⟨before, parts, after, wire, earlier, later, isCut⟩
    have fits := formed.fits
    rw [wire] at parsed fits
    cases parts with
    | nil =>
        have others : ∀ attr ∈ before ++ after, attr.type ≠ .eapMessage := by
          intro attr member
          exact (List.mem_append.mp member).elim (earlier attr) (later attr)
        rw [List.map_nil, List.append_nil] at wire parsed fits
        rw [parse_encode_others fits others] at parsed
        cases parsed
        rw [fragments_others others, wire]
    | cons first rest =>
        rw [parse_encode_run fits earlier later (List.cons_ne_nil _ _)] at parsed
        cases parsed
        rw [List.flatMap_append, List.flatMap_cons, fragments_others earlier,
          fragments_others later, Attribute.fragments_eapMessage,
          Chunks.cut_flatten (by decide) isCut, wire, List.append_assoc]

end Reading

/-- The datagram answers a request that is outstanding. -/
structure Answers (datagram : Datagram) (table : Dict UInt8 Bytes) (request : Bytes) : Prop where
  response : datagram.packetType ≠ .accessRequest
  outstanding : table.get? datagram.packetId = some request
  sixteen : request.length = 16

/-- Whatever the hash functions are, the datagram is accepted if and only if its hashes
are those over the received bytes. -/
def CheckedAsReceived (datagram : Datagram) (secret request : Bytes)
    (table : Dict UInt8 Bytes) : Prop :=
  ∀ hashes, (∃ packet, Radius.parse hashes datagram.bytes secret table = .ok packet) ↔
    Authentic hashes secret request datagram

/-- There is a Message-Authenticator, and its value cannot be a hash. -/
def Misfit (datagram : Datagram) : Prop :=
  ∃ attr, messageAuthenticator datagram.wire = some attr ∧ attr.bytesData.length ≠ 16

section Checking

variable {datagram : Datagram} {secret request : Bytes} {table : Dict UInt8 Bytes}

/-- The packet that is checked. -/
def received (datagram : Datagram) (attributes : List Attribute) : RadiusPacket where
  packetType := datagram.packetType
  packetId := datagram.packetId
  authenticator := datagram.authenticator
  attributes := attributes

theorem accepted_iff {hashes : Hashes} (formed : datagram.WellFormed)
    (answers : datagram.Answers table request) {attributes : List Attribute}
    (parsed : RadiusAttributesList.parse (encode datagram.wire) = .ok attributes) :
    (∃ packet, Radius.parse hashes datagram.bytes secret table = .ok packet) ↔
      secret ≠ [] ∧
        (datagram.received attributes).validateResponseAuthenticator hashes request secret =
          .ok () ∧
        (datagram.received attributes).validateMessageAuthenticator hashes secret request =
          .ok () := by
  have read : Radius.readPacket datagram.bytes = .ok (datagram.received attributes) :=
    readPacket_bytes formed parsed
  have known : Radius.requestAuthenticator (datagram.received attributes) table = .ok request := by
    have response : (datagram.received attributes).packetType ≠ .accessRequest := answers.response
    have outstanding : table.get? (datagram.received attributes).packetId = some request :=
      answers.outstanding
    rw [Radius.requestAuthenticator, if_neg response, outstanding]
    rfl
  constructor
  · rintro ⟨packet, done⟩
    obtain ⟨other, accepted⟩ := parse_eq_ok_iff.mp done
    cases read.symm.trans accepted.read
    cases known.symm.trans accepted.known
    exact ⟨accepted.keyed, accepted.response, accepted.message⟩
  · rintro ⟨keyed, response, message⟩
    exact ⟨_, parse_eq_ok_iff.mpr ⟨request, read, known, keyed, response, message⟩⟩

theorem readable (formed : datagram.WellFormed) :
    ∃ attributes, RadiusAttributesList.parse (encode datagram.wire) = .ok attributes ∧
      (∀ attr ∈ attributes, attr.WellSized) ∧ 20 + length attributes < 65536 := by
  have read : ∃ attributes,
      RadiusAttributesList.parse (encode datagram.wire) = .ok attributes := by
    rcases parse_encode_eq formed.fits with ⟨same, _⟩ | ⟨_, _, merged⟩
    · exact ⟨_, same⟩
    · exact ⟨_, merged⟩
  obtain ⟨attributes, parsed⟩ := read
  obtain ⟨sized, bound⟩ := parse_sound parsed
  have short := formed.short
  exact ⟨attributes, parsed, sized, by omega⟩

/-- A misfit is refused, and its value is not the hash over the received bytes either. -/
theorem Misfit.checkedAsReceived (misfit : datagram.Misfit) (formed : datagram.WellFormed)
    (answers : datagram.Answers table request) :
    datagram.CheckedAsReceived secret request table := by
  intro hashes
  obtain ⟨attr, signed, value⟩ := misfit
  obtain ⟨attributes, parsed, _⟩ := readable formed
  rw [accepted_iff formed answers parsed]
  constructor
  · intro accepted
    have found : messageAuthenticator (datagram.received attributes).attributes = some attr :=
      (messageAuthenticator_parse formed parsed).trans signed
    exact absurd accepted.2.2 (validateMessage_other_length found value)
  · intro authentic
    rw [authentic.message attr signed] at value
    exact absurd (hashes.length_hmacMd5 _ _) value

theorem Tidy.checkedAsReceived (tidy : Tidy datagram.wire) (keyed : secret ≠ [])
    (formed : datagram.WellFormed) (answers : datagram.Answers table request)
    (fitting : ¬ datagram.Misfit) : datagram.CheckedAsReceived secret request table := by
  intro hashes
  obtain ⟨attributes, parsed, sized, short⟩ := readable formed
  have same := (fragments_eq_wire_iff formed parsed).mpr tidy
  have found := messageAuthenticator_parse formed parsed
  have sixteen : ∀ attr, messageAuthenticator attributes = some attr →
      attr.bytesData.length = 16 := by
    intro attr signed
    by_contra value
    exact fitting ⟨attr, found.symm.trans signed, value⟩
  have response : (datagram.received attributes).validateResponseAuthenticator hashes request
      secret = .ok () ↔
        datagram.authenticator =
          hashes.md5 ({ datagram with authenticator := request }.bytes ++ secret) := by
    have bytes : repacked { datagram.received attributes with authenticator := request } =
        { datagram with authenticator := request } :=
      congrArg (Datagram.mk datagram.packetType datagram.packetId request) same
    rw [validateResponse_eq_ok_iff sized short answers.response answers.sixteen, bytes]
    rfl
  have message : (datagram.received attributes).validateMessageAuthenticator hashes secret
      request = .ok () ↔
        ∀ attr, messageAuthenticator datagram.wire = some attr →
          attr.bytesData = hashes.hmacMd5 secret
            { datagram with authenticator := request, wire := zeroed datagram.wire }.bytes := by
    rw [← found]
    cases signed : messageAuthenticator attributes with
    | none => simp [@validateMessage_unsigned hashes (datagram.received attributes) _ _ signed]
    | some attr =>
        have zeroes := (zeroed_fragments sixteen).trans (congrArg zeroed same)
        have bytes : repacked ⟨datagram.packetType, datagram.packetId, request,
              RadiusPacket.zeroMessageAuthenticator attributes⟩ =
            { datagram with authenticator := request, wire := zeroed datagram.wire } :=
          congrArg (Datagram.mk datagram.packetType datagram.packetId request) zeroes
        have hashed := @validateMessage_eq_ok_iff hashes (datagram.received attributes) secret
          request attr sized short answers.sixteen signed (sixteen attr signed)
        rw [hashed, ← bytes]
        simp [received]
  rw [accepted_iff formed answers parsed, response, message]
  constructor
  · rintro ⟨_, first, second⟩
    exact ⟨first, second⟩
  · intro authentic
    exact ⟨keyed, authentic.response, authentic.message⟩

theorem exists_other (hash : Bytes) : ∃ other : Bytes, other.length = 16 ∧ other ≠ hash := by
  by_cases zero : hash = List.replicate 16 0
  · refine ⟨List.replicate 16 1, rfl, ?_⟩
    rw [zero]
    decide
  · exact ⟨List.replicate 16 0, rfl, Ne.symm zero⟩

/-- Hash functions that give one message its hash and all others another. -/
def telling (message hash other mac : Bytes) (hashLength : hash.length = 16)
    (otherLength : other.length = 16) (macLength : mac.length = 16) : Hashes where
  md5 hashed := if hashed = message then hash else other
  hmacMd5 _ _ := mac
  length_md5 hashed := by
    split
    · exact hashLength
    · exact otherLength
  length_hmacMd5 _ _ := macLength

theorem exists_mac (fitting : ¬ datagram.Misfit) :
    ∃ mac : Bytes, mac.length = 16 ∧
      ∀ attr, messageAuthenticator datagram.wire = some attr → attr.bytesData = mac := by
  cases signed : messageAuthenticator datagram.wire with
  | none => exact ⟨List.replicate 16 0, rfl, by simp⟩
  | some attr =>
      refine ⟨attr.bytesData, ?_, by simp⟩
      by_contra value
      exact fitting ⟨attr, signed, value⟩

theorem telling_authentic {other mac : Bytes} (formed : datagram.WellFormed)
    (otherLength : other.length = 16) (macLength : mac.length = 16)
    (value : ∀ attr, messageAuthenticator datagram.wire = some attr → attr.bytesData = mac) :
    Authentic
      (telling ({ datagram with authenticator := request }.bytes ++ secret)
        datagram.authenticator other mac formed.authenticator otherLength macLength)
      secret request datagram where
  response := (if_pos rfl).symm
  message attr signed := value attr signed

/-- What is hashed again differs from the received bytes unless these are tidy. -/
theorem repacked_ne (formed : datagram.WellFormed) (sixteen : request.length = 16)
    {attributes : List Attribute}
    (parsed : RadiusAttributesList.parse (encode datagram.wire) = .ok attributes)
    (sized : ∀ attr ∈ attributes, attr.WellSized) (untidy : ¬ Tidy datagram.wire) :
    (repacked { datagram.received attributes with authenticator := request }).bytes ≠
      { datagram with authenticator := request }.bytes := by
  intro same
  have tails := congrArg (List.drop 20) same
  rw [drop_bytes sixteen, drop_bytes sixteen] at tails
  have fits : ∀ fragment ∈ attributes.flatMap Attribute.fragments, fragment.Fits :=
    fragments_all_fit sized
  exact untidy ((fragments_eq_wire_iff formed parsed).mp
    (encode_injective fits formed.fits tails))

/-- Otherwise hash functions that tell the two apart refuse what is authentic. -/
theorem CheckedAsReceived.tidy (checked : datagram.CheckedAsReceived secret request table)
    (formed : datagram.WellFormed) (answers : datagram.Answers table request)
    (fitting : ¬ datagram.Misfit) : secret ≠ [] ∧ Tidy datagram.wire := by
  obtain ⟨other, otherLength, differs⟩ := exists_other datagram.authenticator
  obtain ⟨mac, macLength, value⟩ := exists_mac fitting
  obtain ⟨attributes, parsed, sized, short⟩ := readable formed
  have authentic := @telling_authentic datagram secret request other mac formed otherLength
    macLength value
  have accepted := (checked _).mpr authentic
  rw [accepted_iff formed answers parsed] at accepted
  obtain ⟨keyed, response, _⟩ := accepted
  refine ⟨keyed, ?_⟩
  by_contra untidy
  have sized : ∀ attr ∈ (datagram.received attributes).attributes, attr.WellSized := sized
  have response :=
    (validateResponse_eq_ok_iff sized short answers.response answers.sixteen).mp response
  have messages := repacked_ne formed answers.sixteen parsed sized untidy
  have hashed : (telling ({ datagram with authenticator := request }.bytes ++ secret)
      datagram.authenticator other mac formed.authenticator otherLength macLength).md5
      ((repacked { datagram.received attributes with authenticator := request }).bytes ++
        secret) = other :=
    if_neg fun same => messages (List.append_cancel_right same)
  exact differs (hashed.symm.trans response.symm)

/-- For every well-formed response to an outstanding request: it is accepted if and only if
its hashes are those over the received bytes, whatever the hash functions are, exactly if
its Message-Authenticator cannot be a hash or there is a secret and the datagram is tidy. -/
theorem checkedAsReceived_iff (formed : datagram.WellFormed)
    (answers : datagram.Answers table request) :
    datagram.CheckedAsReceived secret request table ↔
      datagram.Misfit ∨ secret ≠ [] ∧ Tidy datagram.wire := by
  constructor
  · intro checked
    by_cases misfit : datagram.Misfit
    · exact .inl misfit
    · exact .inr (checked.tidy formed answers misfit)
  · rintro (misfit | ⟨keyed, tidy⟩)
    · exact misfit.checkedAsReceived formed answers
    · by_cases misfit : datagram.Misfit
      · exact misfit.checkedAsReceived formed answers
      · exact tidy.checkedAsReceived keyed formed answers misfit

end Checking

end Datagram

namespace Sample

open Datagram

/-- Hash functions that only count the bytes. -/
def lengths : Hashes where
  md5 message := Bytes.ofNat 16 message.length
  hmacMd5 _ message := Bytes.ofNat 16 message.length
  length_md5 message := by simp
  length_hmacMd5 _ message := by simp

def outstanding : Dict UInt8 Bytes := Dict.empty.insert 0 (List.replicate 16 9)

/-- A challenge with an EAP success in the given pieces. -/
def challenge (hash : Nat) (parts : List Bytes) : Datagram where
  packetType := .accessChallenge
  packetId := 0
  authenticator := Bytes.ofNat 16 hash
  wire := parts.map (Attribute.mk .eapMessage)

theorem challenge_answers (hash : Nat) (parts : List Bytes) :
    (challenge hash parts).Answers outstanding (List.replicate 16 9) where
  response := by simp [challenge]
  outstanding := rfl
  sixteen := rfl

theorem challenge_wellFormed (hash : Nat) {parts : List Bytes}
    (shortParts : ∀ piece ∈ parts, piece.length ≤ 253)
    (short : 20 + (RadiusAttributesList.encode
      (parts.map (Attribute.mk .eapMessage))).length < 65536) :
    (challenge hash parts).WellFormed where
  authenticator := Bytes.length_ofNat _ _
  fits attr member := by
    obtain ⟨piece, inside, rfl⟩ := List.mem_map.mp member
    exact Attribute.fits_eapMessage (shortParts piece inside)
  short := short

/-- A challenge with a State, an EAP-Message in a full piece and another one, and a
Message-Authenticator. -/
def signed : Datagram where
  packetType := .accessChallenge
  packetId := 0
  authenticator := List.replicate 16 7
  wire := ⟨.state, [1, 2]⟩ ::
    ([List.replicate 253 1, [0, 4]].map (Attribute.mk .eapMessage) ++
      [⟨.messageAuthenticator, List.replicate 16 8⟩])

theorem signed_wellFormed : signed.WellFormed where
  authenticator := List.length_replicate
  fits attr member := by
    rcases List.mem_cons.mp member with rfl | member
    · exact ⟨fun _ => by decide, by decide⟩
    rcases List.mem_append.mp member with some | last
    · obtain ⟨piece, inside, rfl⟩ := List.mem_map.mp some
      have short : ∀ piece ∈ [List.replicate 253 1, ([0, 4] : Bytes)], piece.length ≤ 253 := by
        decide +kernel
      exact Attribute.fits_eapMessage (short piece inside)
    · rw [List.mem_singleton.mp last]
      exact ⟨fun _ => by decide, by decide⟩
  short := by decide +kernel

theorem signed_checkedAsReceived :
    signed.CheckedAsReceived [115] (List.replicate 16 9) outstanding := by
  have answers : signed.Answers outstanding (List.replicate 16 9) := by
    constructor
    case response => exact PacketType.noConfusion
    case outstanding => rfl
    case sixteen => rfl
  have tidy : Tidy signed.wire := by
    refine ⟨[⟨.state, [1, 2]⟩], [List.replicate 253 1, [0, 4]],
      [⟨.messageAuthenticator, List.replicate 16 8⟩], rfl, ?_, ?_, ?_⟩
    · simp
    · simp
    · exact ⟨List.length_replicate, by simp [Chunks.IsCut]⟩
  exact (checkedAsReceived_iff signed_wellFormed answers).mpr (.inr ⟨by simp, tidy⟩)

/-- An EAP-Message in two pieces that are not full is joined before it is hashed: the hash
over the received bytes is not accepted. -/
theorem split_not_checkedAsReceived :
    (challenge 29 [[3, 1], [0, 4]]).WellFormed ∧
      (challenge 29 [[3, 1], [0, 4]]).Answers outstanding (List.replicate 16 9) ∧
      ¬ (challenge 29 [[3, 1], [0, 4]]).CheckedAsReceived [115] (List.replicate 16 9)
        outstanding := by
  refine ⟨challenge_wellFormed 29 (by simp) (by decide), challenge_answers _ _, ?_⟩
  intro checked
  have authentic : Authentic lengths [115] (List.replicate 16 9)
      (challenge 29 [[3, 1], [0, 4]]) := {
    response := by decide
    message := by simp [challenge, messageAuthenticator] }
  have refused : Radius.parse lengths (challenge 29 [[3, 1], [0, 4]]).bytes [115] outstanding =
      .error (.messageParse .invalidPacket) := by rfl
  obtain ⟨packet, accepted⟩ := (checked lengths).mpr authentic
  cases refused.symm.trans accepted

end Sample

end Daq.Dot1x
