import Daq.Dot1x.Attributes
import Daq.Lib.Chunks

namespace Daq.Dot1x

open Fallible

/-! The attributes of a packet and the attributes that stand for them in a datagram. -/

namespace Attribute

/-- The bytes of an attribute whose length fits into its length byte. -/
def encoded (attr : Attribute) : Bytes :=
  [attr.type.type, UInt8.ofNat (attr.bytesData.length + 2)] ++ attr.bytesData

/-- An attribute that can stand in a datagram: its type allows its length, and so does
its length byte. -/
structure Fits (attr : Attribute) : Prop where
  sized : attr.WellSized
  short : attr.bytesData.length ≤ 253

/-- The attributes that stand in a datagram for this one. -/
def fragments (attr : Attribute) : List Attribute :=
  if attr.type.dataType = .concat then
    (Chunks.cut 253 attr.bytesData).map fun piece => { type := attr.type, bytesData := piece }
  else [attr]

theorem length_encoded (attr : Attribute) : attr.encoded.length = attr.bytesData.length + 2 := by
  simp [encoded]

theorem WellSized.fits {attr : Attribute} (sized : attr.WellSized)
    (other : attr.type.dataType ≠ .concat) : attr.Fits :=
  ⟨sized, sized.length_le other⟩

theorem fits_eapMessage {piece : Bytes} (short : piece.length ≤ 253) :
    Fits { type := .eapMessage, bytesData := piece } where
  sized other := absurd rfl other
  short := short

theorem parse_bytesData {attr : Attribute} (sized : attr.WellSized) :
    Attribute.parse attr.type attr.bytesData = .ok attr := by
  by_cases concat : attr.type.dataType = .concat
  · rw [Attribute.parse, DataType.parse.eq_def, concat]
    rfl
  · have valid : attr.type.dataType.isValidLength attr.bytesData = .ok () := by
      have bounds := sized concat
      rw [DataType.isValidLength, if_neg (by omega)]
    rw [Attribute.parse, DataType.parse.eq_def, valid]
    cases kind : attr.type.dataType with
    | concat => exact absurd kind concat
    | integer | enum | text | string | vsa => rfl

theorem concat_iff {type : AttributeType} : type.dataType = .concat ↔ type = .eapMessage := by
  constructor
  · exact RadiusAttributesList.eapMessage_of_concat
  · intro isEap
    rw [isEap]
    rfl

theorem fragments_of_ne {attr : Attribute} (other : attr.type ≠ .eapMessage) :
    attr.fragments = [attr] := by
  rw [fragments, if_neg (fun concat => other (concat_iff.mp concat))]

theorem fragments_eapMessage (data : Bytes) :
    fragments { type := .eapMessage, bytesData := data } =
      (Chunks.cut 253 data).map (Attribute.mk .eapMessage) := rfl

theorem fragments_fit {attr : Attribute} (sized : attr.WellSized) :
    ∀ fragment ∈ attr.fragments, fragment.Fits := by
  intro fragment member
  by_cases isEap : attr.type = .eapMessage
  · rw [fragments, if_pos (concat_iff.mpr isEap)] at member
    obtain ⟨piece, cut, rfl⟩ := List.mem_map.mp member
    rw [isEap]
    exact fits_eapMessage ((Chunks.isCut_cut (by decide) attr.bytesData).1.length_le cut)
  · rw [fragments_of_ne isEap] at member
    cases List.mem_singleton.mp member
    exact sized.fits (fun concat => isEap (concat_iff.mp concat))

end Attribute

namespace RadiusAttributesList

/-- The bytes of attributes that fit. -/
def encode (wire : List Attribute) : Bytes := wire.flatMap Attribute.encoded

@[simp] theorem encode_nil : encode [] = [] := rfl

@[simp] theorem encode_cons (attr : Attribute) (rest : List Attribute) :
    encode (attr :: rest) = attr.encoded ++ encode rest := by
  simp [encode]

@[simp] theorem encode_append (first second : List Attribute) :
    encode (first ++ second) = encode first ++ encode second := by
  simp [encode]

section Reading

theorem lookup_self (type : AttributeType) : AttributeType.lookup type.type = .ok type := by
  cases type <;> rfl

theorem extractAttribute_encoded {attr : Attribute} (fits : attr.Fits) (rest : Bytes) :
    extractAttribute (attr.encoded ++ rest) = .ok (attr, rest) := by
  have width : (UInt8.ofNat (attr.bytesData.length + 2)).toNat = attr.bytesData.length + 2 := by
    have short := fits.short
    simp
    omega
  have header : unpackBB ((attr.encoded ++ rest).take 2) =
      .ok (attr.type.type, UInt8.ofNat (attr.bytesData.length + 2)) := rfl
  have value : (attr.encoded ++ rest).slice 2 (attr.bytesData.length + 2) = attr.bytesData := by
    simp [Bytes.slice, Attribute.encoded]
  have behind : (attr.encoded ++ rest).drop (attr.bytesData.length + 2) = rest := by
    simp [Attribute.encoded]
  have parsed : (do
      let registered ← AttributeType.lookup attr.type.type
      Attribute.parse registered attr.bytesData) = .ok attr := by
    rw [lookup_self, ok_bind]
    exact Attribute.parse_bytesData fits.sized
  simp only [extractAttribute, bind_eq_ok_iff, reportedAs_eq_ok_iff]
  refine ⟨_, header, attr, ?_, ?_⟩
  · rw [width, value, Nat.add_sub_cancel, List.take_length]
    exact bind_eq_ok_iff.mp parsed
  · rw [width, behind]
    rfl

theorem extractAttributes_encode {wire : List Attribute} (fits : ∀ attr ∈ wire, attr.Fits)
    {fuel : Nat} (enough : wire.length ≤ fuel) (extraction : Extraction) :
    extractAttributes fuel (encode wire) extraction =
      .ok (wire.foldl Extraction.add extraction) := by
  induction wire generalizing fuel extraction with
  | nil =>
      rw [encode_nil]
      cases fuel <;> rfl
  | cons attr rest shorter =>
      cases fuel with
      | zero => cases enough
      | succ fuel =>
          have one := extractAttribute_encoded (fits attr List.mem_cons_self) (encode rest)
          have others := shorter (fun member found => fits member (List.mem_cons_of_mem _ found))
            (Nat.le_of_succ_le_succ enough) (extraction.add attr)
          rw [encode_cons, List.foldl_cons, ← others]
          exact congrArg (fun read => read >>= fun pair =>
            extractAttributes fuel pair.2 (extraction.add pair.1)) one

theorem length_le_encode (wire : List Attribute) : wire.length ≤ (encode wire).length := by
  induction wire with
  | nil => exact Nat.le_refl _
  | cons attr rest shorter =>
      simp [Attribute.length_encoded]
      omega

/-- Reading back what was encoded is the loop over its attributes. -/
theorem parse_encode {wire : List Attribute} (fits : ∀ attr ∈ wire, attr.Fits) :
    RadiusAttributesList.parse (encode wire) =
      mergeConcatAttributes (wire.foldl Extraction.add Extraction.start).attributes
        (wire.foldl Extraction.add Extraction.start).attributesToConcat := by
  rw [RadiusAttributesList.parse, extractAttributes_encode fits (length_le_encode wire), ok_bind]

theorem attributes_foldl (wire : List Attribute) (extraction : Extraction) :
    (wire.foldl Extraction.add extraction).attributes = extraction.attributes ++ wire := by
  induction wire generalizing extraction with
  | nil => simp
  | cons attr rest shorter => simp [shorter, Extraction.add]

theorem encode_injective {first second : List Attribute} (firstFits : ∀ attr ∈ first, attr.Fits)
    (secondFits : ∀ attr ∈ second, attr.Fits) (same : encode first = encode second) :
    first = second := by
  have short : first.length ≤ (encode second).length := same ▸ length_le_encode first
  have read := extractAttributes_encode firstFits short Extraction.start
  rw [same, extractAttributes_encode secondFits (length_le_encode second)] at read
  injection read with ended
  have attributes := congrArg Extraction.attributes ended
  simp only [attributes_foldl] at attributes
  exact (List.append_cancel_left attributes).symm

end Reading

section Packing

theorem packPieces_eq (type : AttributeType) (count : Nat) (data : Bytes) :
    Attribute.packPieces type count data =
      encode ((Chunks.pieces 253 count data).map (Attribute.mk type)) := by
  induction count generalizing data with
  | zero => rfl
  | succ count shorter =>
      rw [Attribute.packPieces, shorter, Chunks.pieces, List.map_cons, encode_cons]
      rfl

theorem length_encode_pieces (type : AttributeType) (parts : List Bytes) :
    (encode (parts.map (Attribute.mk type))).length = 2 * parts.length + parts.flatten.length := by
  induction parts with
  | nil => rfl
  | cons piece rest shorter =>
      simp [Attribute.length_encoded, shorter]
      omega

/-- The closed formula for the length counts what the loop over the pieces packs. -/
theorem length_encode_fragments {attr : Attribute} (sized : attr.WellSized) :
    (encode attr.fragments).length = attr.fullLength := by
  by_cases isEap : attr.type = .eapMessage
  · have concat := Attribute.concat_iff.mpr isEap
    have count : (Chunks.cut 253 attr.bytesData).length = attr.pieces :=
      Chunks.length_pieces _ _ _
    rw [Attribute.fragments, if_pos concat, length_encode_pieces, count,
      Chunks.flatten_cut (by decide), Attribute.fullLength_concat concat]
  · rw [Attribute.fragments_of_ne isEap,
      sized.fullLength (fun concat => isEap (Attribute.concat_iff.mp concat))]
    simp [Attribute.length_encoded]

theorem packValue_eq {attr : Attribute} (sized : attr.WellSized)
    (other : attr.type.dataType ≠ .concat) : attr.packValue = .ok attr.bytesData := by
  have bounds := sized other
  unfold Attribute.packValue
  cases kind : attr.type.dataType with
  | concat => exact absurd kind other
  | integer | enum =>
      rw [kind] at bounds
      have four : attr.bytesData.length = 4 := Nat.le_antisymm bounds.2 bounds.1
      simp [packChars, four]
  | text | string | vsa => rfl

theorem pack_fragments {attr : Attribute} (sized : attr.WellSized) :
    attr.pack = .ok (encode attr.fragments) := by
  by_cases isEap : attr.type = .eapMessage
  · have concat := Attribute.concat_iff.mpr isEap
    rw [Attribute.pack, concat, Attribute.fragments, if_pos concat, packPieces_eq]
    rfl
  · have other : attr.type.dataType ≠ .concat :=
      fun concat => isEap (Attribute.concat_iff.mp concat)
    have room : attr.fullLength < 256 ^ 1 := by
      have short := sized.length_le other
      rw [sized.fullLength other]
      omega
    rw [Attribute.pack, packUnsigned_eq_ok room, packValue_eq sized other,
      Attribute.fragments_of_ne isEap, sized.fullLength other]
    cases kind : attr.type.dataType with
    | concat => exact absurd kind other
    | integer | enum | text | string | vsa => simp [Attribute.encoded, Bytes.ofNat, encode]

theorem pack_encode {attributes : List Attribute} (sized : ∀ attr ∈ attributes, attr.WellSized) :
    RadiusAttributesList.pack attributes =
      .ok (encode (attributes.flatMap Attribute.fragments)) := by
  have each : attributes.mapM Attribute.pack =
      .ok (attributes.map fun attr => encode attr.fragments) := by
    induction attributes with
    | nil => rfl
    | cons attr rest shorter =>
        have others := shorter fun member found => sized member (List.mem_cons_of_mem _ found)
        rw [List.mapM_cons, pack_fragments (sized attr List.mem_cons_self), ok_bind, others]
        rfl
  rw [RadiusAttributesList.pack, each, ok_bind, encode, List.flatMap_assoc]
  rfl

theorem length_encode {attributes : List Attribute} (sized : ∀ attr ∈ attributes, attr.WellSized) :
    (encode (attributes.flatMap Attribute.fragments)).length = length attributes := by
  induction attributes with
  | nil => rfl
  | cons attr rest shorter =>
      have others := shorter fun member found => sized member (List.mem_cons_of_mem _ found)
      simp [length_encode_fragments (sized attr List.mem_cons_self), others]

end Packing

section Merging

/-- The pieces of EAP-Messages that the loop has come across. -/
def Extraction.collected (extraction : Extraction) : Option (List (Attribute × Int)) :=
  extraction.attributesToConcat.get? .eapMessage

theorem foldl_sound {wire : List Attribute} (fits : ∀ attr ∈ wire, attr.Fits) :
    (wire.foldl Extraction.add Extraction.start).Sound (encode wire).length := by
  have read := extractAttributes_encode fits (length_le_encode wire) Extraction.start
  have sound := extractAttributes_sound Extraction.start_sound read
  rwa [Nat.zero_add] at sound

theorem collected_add_other (extraction : Extraction) {attr : Attribute}
    (other : attr.type ≠ .eapMessage) :
    (extraction.add attr).collected = extraction.collected ∧
      (extraction.add attr).index = extraction.index + 1 ∧
      (extraction.add attr).lastAttribute ≠ some .eapMessage := by
  have single : attr.type.dataType ≠ .concat :=
    fun concat => other (Attribute.concat_iff.mp concat)
  simp [Extraction.collected, Extraction.add, single, other]

theorem collected_add_eapMessage (extraction : Extraction) (piece : Bytes) :
    (extraction.add ⟨.eapMessage, piece⟩).collected =
        some (extraction.collected.getD [] ++
          [(⟨.eapMessage, piece⟩, (extraction.add ⟨.eapMessage, piece⟩).index)]) ∧
      (extraction.add ⟨.eapMessage, piece⟩).index =
        (if extraction.lastAttribute = some .eapMessage then extraction.index
          else extraction.index + 1) ∧
      (extraction.add ⟨.eapMessage, piece⟩).lastAttribute = some .eapMessage := by
  have concat : AttributeType.dataType .eapMessage = .concat := rfl
  simp [Extraction.collected, Extraction.add, concat]

theorem foldl_others {wire : List Attribute} (others : ∀ attr ∈ wire, attr.type ≠ .eapMessage)
    (extraction : Extraction) :
    (wire.foldl Extraction.add extraction).collected = extraction.collected ∧
      (wire.foldl Extraction.add extraction).index = extraction.index + wire.length ∧
      (extraction.lastAttribute ≠ some .eapMessage →
        (wire.foldl Extraction.add extraction).lastAttribute ≠ some .eapMessage) := by
  induction wire generalizing extraction with
  | nil => simp
  | cons attr rest later =>
      obtain ⟨collected, index, last⟩ :=
        collected_add_other extraction (others attr List.mem_cons_self)
      have tail := later (fun member found => others member (List.mem_cons_of_mem _ found))
        (extraction.add attr)
      rw [collected, index] at tail
      rw [List.foldl_cons, List.length_cons]
      refine ⟨tail.1, ?_, fun _ => tail.2.2 last⟩
      rw [tail.2.1]
      omega

theorem foldl_pieces (parts : List Bytes) {extraction : Extraction}
    {noted : List (Attribute × Int)} (collected : extraction.collected = some noted)
    (last : extraction.lastAttribute = some .eapMessage) :
    ((parts.map (Attribute.mk .eapMessage)).foldl Extraction.add extraction).collected =
        some (noted ++ parts.map fun piece => (⟨.eapMessage, piece⟩, extraction.index)) := by
  induction parts generalizing extraction noted with
  | nil => simpa using collected
  | cons piece rest later =>
      obtain ⟨more, index, still⟩ := collected_add_eapMessage extraction piece
      rw [if_pos last] at index
      rw [collected, index, Option.getD_some] at more
      rw [List.map_cons, List.foldl_cons, later more still, index]
      simp

theorem filter_others {wire : List Attribute}
    (others : ∀ attr ∈ wire, attr.type ≠ .eapMessage) :
    wire.filter (fun attr => attr.type ≠ .eapMessage) = wire := by
  apply List.filter_eq_self.mpr
  intro attr member
  simpa using others attr member

theorem filter_pieces (parts : List Bytes) :
    (parts.map (Attribute.mk .eapMessage)).filter (fun attr => attr.type ≠ .eapMessage) = [] := by
  apply List.filter_eq_nil_iff.mpr
  intro attr member
  obtain ⟨piece, _, rfl⟩ := List.mem_map.mp member
  simp

theorem parse_encode_others {wire : List Attribute} (fits : ∀ attr ∈ wire, attr.Fits)
    (others : ∀ attr ∈ wire, attr.type ≠ .eapMessage) :
    RadiusAttributesList.parse (encode wire) = .ok wire := by
  have none := (foldl_others others Extraction.start).1
  rw [parse_encode fits]
  rcases mergeConcatAttributes_eq (foldl_sound fits) with ⟨_, same⟩ | ⟨list, found, _⟩
  · rw [same, attributes_foldl]
    rfl
  · cases none.symm.trans found

/-- The loop over one run of pieces notes all of them under the index of the first. -/
theorem foldl_run {before after : List Attribute} {first : Bytes} {rest : List Bytes}
    (earlier : ∀ attr ∈ before, attr.type ≠ .eapMessage)
    (later : ∀ attr ∈ after, attr.type ≠ .eapMessage) :
    ((before ++ (first :: rest).map (Attribute.mk .eapMessage) ++ after).foldl Extraction.add
        Extraction.start).collected =
      some ((first :: rest).map fun piece =>
        (⟨.eapMessage, piece⟩, (before.length : Int))) := by
  obtain ⟨none, position, fresh⟩ := foldl_others earlier Extraction.start
  have last := fresh (by decide)
  obtain ⟨one, index, isEap⟩ :=
    collected_add_eapMessage (before.foldl Extraction.add Extraction.start) first
  have start : Extraction.start.index + before.length + 1 = (before.length : Int) := by
    change (-1 : Int) + before.length + 1 = before.length
    omega
  rw [if_neg last, position, start] at index
  rw [none, index] at one
  have joined := foldl_pieces rest one isEap
  rw [index] at joined
  simp only [List.foldl_append, List.map_cons, List.foldl_cons, (foldl_others later _).1]
  exact joined

/-- Pieces of an EAP-Message that follow each other are joined where they stand. -/
theorem parse_encode_run {before after : List Attribute} {parts : List Bytes}
    (fits : ∀ attr ∈ before ++ parts.map (Attribute.mk .eapMessage) ++ after, attr.Fits)
    (earlier : ∀ attr ∈ before, attr.type ≠ .eapMessage)
    (later : ∀ attr ∈ after, attr.type ≠ .eapMessage) (some : parts ≠ []) :
    RadiusAttributesList.parse
        (encode (before ++ parts.map (Attribute.mk .eapMessage) ++ after)) =
      .ok (before ++ ⟨.eapMessage, parts.flatten⟩ :: after) := by
  obtain ⟨first, rest, rfl⟩ := List.exists_cons_of_ne_nil some
  have noted := @foldl_run before after first rest earlier later
  rw [parse_encode fits]
  rcases mergeConcatAttributes_eq (foldl_sound fits) with ⟨missing, _⟩ | ⟨list, found, merged⟩
  · cases noted.symm.trans missing
  · cases noted.symm.trans found
    have place : insertAt (before ++ after) (before.length : Int)
        ⟨.eapMessage, (first :: rest).flatten⟩ =
          before ++ ⟨.eapMessage, (first :: rest).flatten⟩ :: after := by
      simp [insertAt]
    have kept : (before ++ (first :: rest).map (Attribute.mk .eapMessage) ++ after).filter
        (fun attr => attr.type ≠ .eapMessage) = before ++ after := by
      rw [List.filter_append, List.filter_append, filter_others earlier, filter_others later,
        filter_pieces, List.append_nil]
    have index : (((first :: rest).map fun piece =>
        ((⟨.eapMessage, piece⟩ : Attribute), (before.length : Int))).getLast?.map
          Prod.snd).getD 0 = before.length := by
      simp [List.getLast?_map, List.getLast?_cons]
    have bytes : (((first :: rest).map fun piece =>
        ((⟨.eapMessage, piece⟩ : Attribute), (before.length : Int))).flatMap
          fun piece => piece.1.bytesData) = (first :: rest).flatten := by
      rw [List.flatMap_map, List.flatMap_id']
    rw [merged, attributes_foldl, index, bytes, ← place, ← kept]
    rfl

/-- In general one EAP-Message stands somewhere among the other attributes. -/
theorem parse_encode_eq {wire : List Attribute} (fits : ∀ attr ∈ wire, attr.Fits) :
    RadiusAttributesList.parse (encode wire) = .ok wire ∧
        (∀ attr ∈ wire, attr.type ≠ .eapMessage) ∨
      ∃ index data, RadiusAttributesList.parse (encode wire) =
        .ok (insertAt (wire.filter fun attr => attr.type ≠ .eapMessage) index
          ⟨.eapMessage, data⟩) := by
  rw [parse_encode fits]
  rcases mergeConcatAttributes_eq (foldl_sound fits) with ⟨missing, same⟩ | ⟨list, found, merged⟩
  · left
    have pieces := (foldl_sound fits).pieces
    rw [missing, attributes_foldl] at pieces
    constructor
    · rw [same, attributes_foldl]
      rfl
    · intro attr member isEap
      have empty := List.filter_eq_nil_iff.mp pieces.symm attr (by simpa using .inr member)
      exact empty (by simpa using isEap)
  · right
    rw [merged, attributes_foldl]
    exact ⟨_, _, rfl⟩

end Merging

section RoundTrip

theorem indexof_eq {before after : List Attribute} {attr : Attribute}
    (earlier : ∀ other ∈ before, other.type.description ≠ attr.type.description) :
    indexof (before ++ attr :: after) attr.type.description = .ok (length before) := by
  induction before with
  | nil => simp [indexof]
  | cons first rest later =>
      have behind := later fun other member => earlier other (List.mem_cons_of_mem _ member)
      have differs := (earlier first List.mem_cons_self).symm
      simp only [List.cons_append, indexof, if_neg differs, behind, ok_bind, length_cons]
      rfl

theorem at_most_one {attributes : List Attribute}
    (once : (attributes.filter fun attr => attr.type = .eapMessage).length ≤ 1) :
    (∀ attr ∈ attributes, attr.type ≠ .eapMessage) ∨
      ∃ before data after, attributes = before ++ ⟨.eapMessage, data⟩ :: after ∧
        (∀ attr ∈ before, attr.type ≠ .eapMessage) ∧
        ∀ attr ∈ after, attr.type ≠ .eapMessage := by
  by_cases others : ∀ attr ∈ attributes, attr.type ≠ .eapMessage
  · exact .inl others
  · right
    push Not at others
    obtain ⟨⟨type, data⟩, member, isEap⟩ := others
    cases isEap
    obtain ⟨before, after, rfl⟩ := List.append_of_mem member
    simp at once
    have none : ∀ {list : List Attribute},
        (list.filter fun attr => attr.type = .eapMessage).length = 0 →
          ∀ attr ∈ list, attr.type ≠ .eapMessage := by
      intro list empty attr inside isEap
      have found := List.filter_eq_nil_iff.mp (List.length_eq_zero_iff.mp empty) attr inside
      exact found (by simpa using isEap)
    exact ⟨before, data, after, rfl, none (by omega), none (by omega)⟩

theorem fragments_others {attributes : List Attribute}
    (others : ∀ attr ∈ attributes, attr.type ≠ .eapMessage) :
    attributes.flatMap Attribute.fragments = attributes := by
  induction attributes with
  | nil => rfl
  | cons attr rest later =>
      have behind := later fun other member => others other (List.mem_cons_of_mem _ member)
      rw [List.flatMap_cons, Attribute.fragments_of_ne (others attr List.mem_cons_self), behind]
      rfl

theorem fragments_all_fit {attributes : List Attribute}
    (sized : ∀ attr ∈ attributes, attr.WellSized) :
    ∀ fragment ∈ attributes.flatMap Attribute.fragments, fragment.Fits := by
  intro fragment member
  obtain ⟨attr, inside, piece⟩ := List.mem_flatMap.mp member
  exact Attribute.fragments_fit (sized attr inside) fragment piece

theorem parse_encode_fragments {attributes : List Attribute}
    (sized : ∀ attr ∈ attributes, attr.WellSized)
    (filled : ∀ attr ∈ attributes, attr.type = .eapMessage → attr.bytesData ≠ [])
    (once : (attributes.filter fun attr => attr.type = .eapMessage).length ≤ 1) :
    RadiusAttributesList.parse (encode (attributes.flatMap Attribute.fragments)) =
      .ok attributes := by
  have fits := fragments_all_fit sized
  rcases at_most_one once with others | ⟨before, data, after, rfl, earlier, later⟩
  · rw [fragments_others others] at fits ⊢
    exact parse_encode_others fits others
  · have wire : (before ++ ⟨.eapMessage, data⟩ :: after).flatMap Attribute.fragments =
        before ++ (Chunks.cut 253 data).map (Attribute.mk .eapMessage) ++ after := by
      rw [List.flatMap_append, List.flatMap_cons, fragments_others earlier,
        fragments_others later, Attribute.fragments_eapMessage, List.append_assoc]
    have contents : (Chunks.cut 253 data).flatten = data := Chunks.flatten_cut (by decide) data
    have pieces : Chunks.cut 253 data ≠ [] := by
      intro none
      rw [none] at contents
      exact filled ⟨.eapMessage, data⟩ (by simp) rfl contents.symm
    rw [wire] at fits ⊢
    rw [parse_encode_run fits earlier later pieces, contents]

/-- For every list of attributes of the lengths their types allow, with at most one
EAP-Message and that not empty: parsing what was packed gives the list back, the
length is the number of bytes packed, and `indexof` finds where in them the first attribute
with a description starts. -/
theorem parse_pack_indexof {attributes : List Attribute}
    (sized : ∀ attr ∈ attributes, attr.WellSized)
    (filled : ∀ attr ∈ attributes, attr.type = .eapMessage → attr.bytesData ≠ [])
    (once : (attributes.filter fun attr => attr.type = .eapMessage).length ≤ 1) :
    ∃ packed, RadiusAttributesList.pack attributes = .ok packed ∧
      RadiusAttributesList.parse packed = .ok attributes ∧
      packed.length = length attributes ∧
      ∀ before attr after, attributes = before ++ attr :: after →
        (∀ other ∈ before, other.type.description ≠ attr.type.description) →
        ∃ first one rest, RadiusAttributesList.pack before = .ok first ∧
          attr.pack = .ok one ∧ RadiusAttributesList.pack after = .ok rest ∧
          packed = first ++ one ++ rest ∧
          indexof attributes attr.type.description = .ok first.length := by
  refine ⟨_, pack_encode sized, parse_encode_fragments sized filled once, length_encode sized, ?_⟩
  intro before attr after split earlier
  have member : ∀ other, other ∈ before ∨ other = attr ∨ other ∈ after → other ∈ attributes := by
    intro other inside
    simpa [split] using inside
  have beforeSized : ∀ other ∈ before, other.WellSized :=
    fun other inside => sized other (member other (.inl inside))
  have afterSized : ∀ other ∈ after, other.WellSized :=
    fun other inside => sized other (member other (.inr (.inr inside)))
  refine ⟨_, _, _, pack_encode beforeSized, pack_fragments (sized attr (member attr (by simp))),
    pack_encode afterSized, ?_, ?_⟩
  · simp [split]
  · rw [length_encode beforeSized, split]
    exact indexof_eq earlier

/-- An EAP-Message of two pieces between other attributes. -/
def spanning : List Attribute :=
  [⟨.userName, [117, 115, 101, 114]⟩, ⟨.eapMessage, List.replicate 254 7⟩,
    ⟨.messageAuthenticator, List.replicate 16 0⟩]

theorem spanning_parse_pack :
    ∃ packed, RadiusAttributesList.pack spanning = .ok packed ∧
      RadiusAttributesList.parse packed = .ok spanning ∧ packed.length = length spanning := by
  have sized : ∀ attr ∈ spanning, attr.WellSized := by
    simp only [spanning, List.forall_mem_cons, List.not_mem_nil, false_implies, implies_true]
    exact ⟨fun _ => by decide, fun other => absurd rfl other, fun _ => by decide, trivial⟩
  have filled : ∀ attr ∈ spanning, attr.type = .eapMessage → attr.bytesData ≠ [] := by
    simp only [spanning, List.forall_mem_cons, List.not_mem_nil, false_implies, implies_true]
    exact ⟨by decide, fun _ => List.cons_ne_nil _ _, by decide, trivial⟩
  obtain ⟨packed, done, parsed, length, _⟩ := parse_pack_indexof sized filled (by decide)
  exact ⟨packed, done, parsed, length⟩

end RoundTrip

end RadiusAttributesList

end Daq.Dot1x
