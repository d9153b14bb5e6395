import Daq.Dot1x.Relay

namespace Daq.Dot1x

open Fallible

/-! How long the attributes of a datagram can be, and when reading them never ends. -/

namespace Attribute

/-- The value has a length that its type allows. -/
def WellSized (attr : Attribute) : Prop :=
  attr.type.dataType ≠ .concat →
    attr.type.dataType.minDataLength ≤ attr.bytesData.length ∧
      attr.bytesData.length ≤ attr.type.dataType.maxDataLength

theorem parse_eq_ok {type : AttributeType} {packedValue : Bytes} {attr : Attribute}
    (parsed : Attribute.parse type packedValue = .ok attr) :
    attr.type = type ∧ attr.bytesData = packedValue ∧ attr.WellSized := by
  obtain ⟨value, read, ⟨⟩⟩ := bind_eq_ok_iff.mp parsed
  by_cases concat : type.dataType = .concat
  · rw [DataType.parse.eq_def, concat] at read
    cases read
    exact ⟨rfl, rfl, fun other => absurd concat other⟩
  · have checked : reportedAs [.valueError, .structError] (.unpackable type.dataType)
        (do type.dataType.isValidLength packedValue; return packedValue) = .ok value := by
      rw [← read, DataType.parse.eq_def]
      cases kind : type.dataType <;> first | rfl | exact absurd kind concat
    rw [reportedAs_eq_ok_iff] at checked
    obtain ⟨⟨⟩, valid, ⟨⟩⟩ := bind_eq_ok_iff.mp checked
    refine ⟨rfl, rfl, fun _ => ?_⟩
    unfold DataType.isValidLength at valid
    split at valid
    · cases valid
    · rename_i bounds
      rw [not_or, Nat.not_lt, Nat.not_lt] at bounds
      exact bounds

theorem parse_onlyReports (type : AttributeType) (packedValue : Bytes) :
    OnlyReports (Attribute.parse type packedValue) := by
  refine onlyReports_bind ?_ fun _ _ => onlyReports_pure _
  rw [DataType.parse.eq_def]
  split
  · exact onlyReports_ok _
  · refine onlyReports_reportedAs fun raised failed => .inl ?_
    rcases bind_eq_error_iff.mp failed with invalid | ⟨⟨⟩, _, impossible⟩
    · unfold DataType.isValidLength at invalid
      split at invalid <;> cases invalid
      simp
    · cases impossible

theorem fullLength_concat {attr : Attribute} (concat : attr.type.dataType = .concat) :
    attr.fullLength = 2 * attr.pieces + attr.bytesData.length := by
  unfold fullLength
  rw [concat]
  dsimp only
  omega

theorem WellSized.fullLength {attr : Attribute} (sized : attr.WellSized)
    (other : attr.type.dataType ≠ .concat) : attr.fullLength = attr.bytesData.length + 2 := by
  have bounds := sized other
  unfold Attribute.fullLength dataLength
  cases kind : attr.type.dataType with
  | concat => exact absurd kind other
  | integer | enum =>
      rw [kind] at bounds
      simp only [DataType.minDataLength, DataType.maxDataLength] at bounds
      dsimp only
      omega
  | text | string | vsa => rfl

theorem WellSized.length_le {attr : Attribute} (sized : attr.WellSized)
    (other : attr.type.dataType ≠ .concat) : attr.bytesData.length ≤ 253 := by
  refine Nat.le_trans (sized other).2 ?_
  cases attr.type.dataType <;> simp [DataType.maxDataLength]

theorem length_le_fullLength {attr : Attribute} (sized : attr.WellSized) :
    attr.bytesData.length ≤ attr.fullLength := by
  by_cases concat : attr.type.dataType = .concat
  · rw [fullLength_concat concat]
    omega
  · rw [sized.fullLength concat]
    omega

theorem pack_eq_ok {attr : Attribute} (sized : attr.WellSized) :
    ∃ packed, attr.pack = .ok packed := by
  unfold Attribute.pack
  by_cases concat : attr.type.dataType = .concat
  · rw [concat]
    exact ⟨_, rfl⟩
  · have fits : attr.fullLength < 256 ^ 1 := by
      have bound := sized.length_le concat
      rw [sized.fullLength concat]
      omega
    have value : ∃ bytes, attr.packValue = .ok bytes := by
      unfold packValue
      cases attr.type.dataType <;> exact ⟨_, rfl⟩
    obtain ⟨bytes, packed⟩ := value
    rw [packUnsigned_eq_ok fits, packed]
    cases attr.type.dataType <;> exact ⟨_, rfl⟩

end Attribute

namespace RadiusAttributesList

@[simp] theorem length_cons (attr : Attribute) (rest : List Attribute) :
    length (attr :: rest) = attr.fullLength + length rest := by
  simp [length]

@[simp] theorem length_nil : length [] = 0 := rfl

@[simp] theorem length_append (first second : List Attribute) :
    length (first ++ second) = length first + length second := by
  simp [length]

theorem fullLength_le_length {attr : Attribute} {attributes : List Attribute}
    (member : attr ∈ attributes) : attr.fullLength ≤ length attributes := by
  induction attributes with
  | nil => cases member
  | cons first rest shorter =>
      rw [length_cons]
      rcases List.mem_cons.mp member with rfl | inside
      · omega
      · have bound := shorter inside
        omega

theorem lookup_type {type : UInt8} {registered : AttributeType}
    (found : AttributeType.lookup type = .ok registered) : registered.type = type := by
  unfold AttributeType.lookup at found
  split at found
  · rename_i known search
    cases found
    simpa using List.find?_some search
  · cases found

theorem lookup_error {type : UInt8} {raised : Raised}
    (failed : AttributeType.lookup type = .error raised) : raised = .keyError := by
  unfold AttributeType.lookup at failed
  split at failed <;> cases failed
  rfl

/-- One iteration of the loop in terms of the bytes it consumes. -/
structure Extracts (attributesData : Bytes) (attr : Attribute) (remaining : Bytes) : Prop where
  sized : attr.WellSized
  budget : attr.fullLength + remaining.length ≤ attributesData.length
  progress : remaining.length < attributesData.length ∨
    (∃ rest, attributesData = 79 :: 0 :: rest) ∧ remaining = attributesData

theorem eapMessage_of_concat {type : AttributeType} (concat : type.dataType = .concat) :
    type = .eapMessage := by
  cases type <;> first | rfl | cases concat

theorem extractAttribute_eq_ok {attributesData remaining : Bytes} {attr : Attribute}
    (extracted : extractAttribute attributesData = .ok (attr, remaining)) :
    Extracts attributesData attr remaining := by
  obtain ⟨⟨type, attrLength⟩, header, rest⟩ := bind_eq_ok_iff.mp extracted
  obtain ⟨parsedAttr, guarded, ⟨⟩⟩ := bind_eq_ok_iff.mp rest
  rw [reportedAs_eq_ok_iff] at header guarded
  obtain ⟨registered, found, parsed⟩ := bind_eq_ok_iff.mp guarded
  obtain ⟨typed, value, sized⟩ := Attribute.parse_eq_ok parsed
  obtain ⟨tail, rfl⟩ : ∃ tail, attributesData = type :: attrLength :: tail := by
    match attributesData, header with
    | first :: second :: tail, header =>
        cases header
        exact ⟨tail, rfl⟩
  have valueLength : attr.bytesData.length =
      min attrLength.toNat (tail.length + 2) - 2 := by
    rw [value]
    simp only [Bytes.slice, List.length_take, List.length_drop, List.length_cons]
    omega
  have full : attr.fullLength ≤ min attrLength.toNat (tail.length + 2) := by
    by_cases concat : attr.type.dataType = .concat
    · have bound := attrLength.toNat_lt
      rw [Attribute.fullLength_concat concat, Attribute.pieces, valueLength]
      omega
    · have bounds := sized concat
      have least : 1 ≤ attr.type.dataType.minDataLength := by
        cases attr.type.dataType <;> simp [DataType.minDataLength]
      rw [sized.fullLength concat]
      omega
  refine ⟨sized, ?_, ?_⟩
  · simp only [List.length_drop, List.length_cons]
    omega
  · by_cases zero : attrLength.toNat = 0
    · right
      have empty : attr.bytesData.length = 0 := by omega
      have concat : attr.type.dataType = .concat := by
        by_contra other
        have bounds := sized other
        have least : 1 ≤ attr.type.dataType.minDataLength := by
          cases attr.type.dataType <;> simp [DataType.minDataLength]
        omega
      have isEap : registered = .eapMessage := by
        rw [← typed]
        exact eapMessage_of_concat concat
      have isZero : attrLength = 0 := UInt8.toNat_inj.mp zero
      subst isEap isZero
      rw [← lookup_type found]
      exact ⟨⟨tail, rfl⟩, rfl⟩
    · left
      simp only [List.length_drop, List.length_cons]
      omega

theorem extractAttribute_onlyReports (attributesData : Bytes) :
    OnlyReports (extractAttribute attributesData) := by
  refine onlyReports_bind (onlyReports_unpack fun _ failed => unpackBB_error failed)
    fun _ _ => onlyReports_bind (onlyReports_reportedAs fun raised failed => ?_)
      fun _ _ => onlyReports_pure _
  rcases bind_eq_error_iff.mp failed with unknown | ⟨registered, _, inner⟩
  · exact .inl (by simp [lookup_error unknown])
  · exact .inr (Attribute.parse_onlyReports registered _ raised inner)

/-- The loop comes to an EAP-Message of length zero, which leaves it where it is. -/
inductive Stalls : Bytes → Prop where
  | here (rest : Bytes) : Stalls (79 :: 0 :: rest)
  | later {attributesData remaining : Bytes} {attr : Attribute}
      (extracted : extractAttribute attributesData = .ok (attr, remaining))
      (stalls : Stalls remaining) : Stalls attributesData

/-- With one iteration for each byte the loop ends unless it stalls. -/
theorem extractAttributes_error {fuel : Nat} {attributesData : Bytes} {extraction : Extraction}
    {raised : Raised} (enough : attributesData.length ≤ fuel)
    (failed : extractAttributes fuel attributesData extraction = .error raised) :
    (∃ error, raised = .messageParse error) ∨ Stalls attributesData := by
  induction fuel generalizing attributesData extraction with
  | zero =>
      cases attributesData with
      | nil => cases failed
      | cons byte rest => cases enough
  | succ fuel shorter =>
      cases attributesData with
      | nil => cases failed
      | cons byte rest =>
          rw [extractAttributes] at failed
          rcases bind_eq_error_iff.mp failed with early | ⟨⟨attr, remaining⟩, extracted, later⟩
          · exact .inl (extractAttribute_onlyReports _ raised early)
          · rcases (extractAttribute_eq_ok extracted).progress with progress | ⟨⟨tail, here⟩, _⟩
            · have fits : remaining.length ≤ fuel := by omega
              rcases shorter fits later with reported | stalls
              · exact .inl reported
              · exact .inr (.later extracted stalls)
            · exact .inr (here ▸ .here tail)

/-- What the loop has collected fits into the bytes it has consumed. -/
structure Extraction.Sound (extraction : Extraction) (spent : Nat) : Prop where
  sized : ∀ attr ∈ extraction.attributes, attr.WellSized
  short : length extraction.attributes ≤ spent
  concats : ∀ key ∈ extraction.attributesToConcat.keys, key = .eapMessage
  pieces : ((extraction.attributesToConcat.get? .eapMessage).getD []).map Prod.fst =
    extraction.attributes.filter fun attr => attr.type = .eapMessage

theorem Extraction.start_sound : Extraction.start.Sound 0 where
  sized attr member := by cases member
  short := Nat.le_refl _
  concats key member := by cases member
  pieces := rfl

theorem Extraction.Sound.add {extraction : Extraction} {spent : Nat} {attr : Attribute}
    (sound : extraction.Sound spent) (sized : attr.WellSized) :
    (extraction.add attr).Sound (spent + attr.fullLength) := by
  have short : length (extraction.add attr).attributes ≤ spent + attr.fullLength := by
    have before := sound.short
    simp only [Extraction.add, length_append, length_cons, length_nil]
    omega
  have everySized : ∀ member ∈ (extraction.add attr).attributes, member.WellSized := by
    intro member found
    rcases List.mem_append.mp found with old | new
    · exact sound.sized member old
    · cases List.mem_singleton.mp new
      exact sized
  by_cases concat : attr.type.dataType = .concat
  · have isEap := eapMessage_of_concat concat
    refine ⟨everySized, short, ?_, ?_⟩
    · intro key member
      simp only [Extraction.add, concat, if_true, Dict.mem_keys_iff, Dict.get?_insert] at member
      obtain ⟨value, found⟩ := member
      split at found
      · rename_i same
        exact same.trans isEap
      · exact sound.concats key (Dict.mem_keys_iff.mpr ⟨value, found⟩)
    · have before := sound.pieces
      have eapConcat : AttributeType.dataType .eapMessage = .concat := rfl
      simp only [Extraction.add, isEap, eapConcat, if_true, Dict.get?_insert_self,
        Option.getD_some, List.map_append, before, List.filter_append]
      simp [isEap]
  · have notEap : attr.type ≠ .eapMessage := by
      intro isEap
      rw [isEap] at concat
      exact concat rfl
    refine ⟨everySized, short, ?_, ?_⟩
    · simp only [Extraction.add, concat, if_false]
      exact sound.concats
    · simp only [Extraction.add, concat, if_false, sound.pieces, List.filter_append]
      simp [notEap]

theorem extractAttributes_sound {fuel spent : Nat} {attributesData : Bytes}
    {extraction result : Extraction} (sound : extraction.Sound spent)
    (extracted : extractAttributes fuel attributesData extraction = .ok result) :
    result.Sound (spent + attributesData.length) := by
  induction fuel generalizing attributesData extraction spent with
  | zero =>
      cases attributesData with
      | nil =>
          cases extracted
          exact sound
      | cons byte rest => cases extracted
  | succ fuel shorter =>
      cases attributesData with
      | nil =>
          cases extracted
          exact sound
      | cons byte rest =>
          rw [extractAttributes] at extracted
          obtain ⟨⟨attr, remaining⟩, one, more⟩ := bind_eq_ok_iff.mp extracted
          have step := extractAttribute_eq_ok one
          have after := shorter (sound.add step.sized) more
          have budget := step.budget
          exact ⟨after.sized, Nat.le_trans after.short (by omega), after.concats, after.pieces⟩

theorem joined_length_le (fragments : List Attribute)
    (eap : ∀ fragment ∈ fragments, fragment.type = .eapMessage) :
    (Attribute.mk .eapMessage (fragments.flatMap fun fragment => fragment.bytesData)).fullLength ≤
      length fragments := by
  induction fragments with
  | nil => simp [Attribute.fullLength, AttributeType.dataType, Attribute.pieces]
  | cons fragment rest shorter =>
      have first := Attribute.fullLength_concat
        (show fragment.type.dataType = .concat by rw [eap fragment List.mem_cons_self]; rfl)
      have others := shorter fun member found => eap member (List.mem_cons_of_mem _ found)
      rw [Attribute.fullLength_concat rfl] at others ⊢
      simp only [Attribute.pieces, List.flatMap_cons, List.length_append, length_cons] at *
      omega

theorem length_insertAt (attributes : List Attribute) (index : Int) (attr : Attribute) :
    length (insertAt attributes index attr) = attr.fullLength + length attributes := by
  have parts := congrArg length (List.take_append_drop index.toNat attributes)
  rw [length_append] at parts
  simp only [insertAt, length_append, length_cons]
  omega

theorem length_filter_add (attributes : List Attribute) (type : AttributeType) :
    length (attributes.filter fun attr => attr.type ≠ type) +
      length (attributes.filter fun attr => attr.type = type) = length attributes := by
  induction attributes with
  | nil => rfl
  | cons attr rest shorter =>
      by_cases same : attr.type = type
      · simp only [ne_eq, same, not_true_eq_false, decide_false, decide_true,
          List.filter_cons_of_neg, List.filter_cons_of_pos, length_cons, Bool.false_eq_true,
          not_false_eq_true] at shorter ⊢
        omega
      · simp only [ne_eq, same, not_false_eq_true, decide_false, decide_true,
          List.filter_cons_of_neg, List.filter_cons_of_pos, length_cons,
          Bool.false_eq_true] at shorter ⊢
        omega

theorem entries_of_single_key {κ ν : Type} [DecidableEq κ] {dict : Dict κ ν} {key : κ}
    (single : ∀ other ∈ dict.keys, other = key) :
    dict.entries = [] ∧ dict.get? key = none ∨
      ∃ value, dict.entries = [(key, value)] ∧ dict.get? key = some value := by
  obtain ⟨entries, distinct⟩ := dict
  match entries, distinct, single with
  | [], _, _ => exact .inl ⟨rfl, rfl⟩
  | [(first, value)], _, single =>
      cases single first List.mem_cons_self
      exact .inr ⟨value, rfl, by simp [Dict.get?]⟩
  | (first, _) :: (second, _) :: _, distinct, single =>
      have firstSame := single first List.mem_cons_self
      have secondSame := single second (List.mem_cons_of_mem _ List.mem_cons_self)
      subst firstSame
      subst secondSame
      simp at distinct

/-- The joined EAP-Message goes where its last piece was. -/
theorem mergeConcatAttributes_eq {extraction : Extraction} {total : Nat}
    (sound : extraction.Sound total) :
    extraction.attributesToConcat.get? .eapMessage = none ∧
        mergeConcatAttributes extraction.attributes extraction.attributesToConcat =
          .ok extraction.attributes ∨
      ∃ list, extraction.attributesToConcat.get? .eapMessage = some list ∧
        mergeConcatAttributes extraction.attributes extraction.attributesToConcat =
          .ok (insertAt (extraction.attributes.filter fun attr => attr.type ≠ .eapMessage)
            ((list.getLast?.map Prod.snd).getD 0)
            ⟨.eapMessage, list.flatMap fun piece => piece.1.bytesData⟩) := by
  unfold mergeConcatAttributes
  rcases entries_of_single_key sound.concats with ⟨none, missing⟩ | ⟨list, one, found⟩
  · left
    rw [none]
    exact ⟨missing, rfl⟩
  · right
    rw [one]
    exact ⟨list, found, rfl⟩

theorem mergeConcatAttributes_sound {extraction : Extraction} {total : Nat}
    {attributes : List Attribute} (sound : extraction.Sound total)
    (merged : mergeConcatAttributes extraction.attributes extraction.attributesToConcat =
      .ok attributes) :
    (∀ attr ∈ attributes, attr.WellSized) ∧ length attributes ≤ total := by
  rcases mergeConcatAttributes_eq sound with ⟨_, same⟩ | ⟨list, found, inserted⟩
  · rw [same] at merged
    cases merged
    exact ⟨sound.sized, sound.short⟩
  · rw [inserted] at merged
    cases merged
    have fragments : list.map Prod.fst =
        extraction.attributes.filter fun attr => attr.type = .eapMessage := by
      have pieces := sound.pieces
      rw [found] at pieces
      exact pieces
    have bytes : (list.flatMap fun piece => piece.1.bytesData) =
        (extraction.attributes.filter fun attr => attr.type = .eapMessage).flatMap
          fun fragment => fragment.bytesData := by
      rw [← fragments, List.flatMap_map]
    have room := joined_length_le
      (extraction.attributes.filter fun attr => attr.type = .eapMessage)
      (fun fragment member => by simpa using (List.mem_filter.mp member).2)
    have split := length_filter_add extraction.attributes .eapMessage
    have before := sound.short
    constructor
    · intro attr member
      simp only [insertAt, List.mem_append, List.mem_cons] at member
      rcases member with early | rfl | late
      · exact sound.sized attr (List.mem_filter.mp (List.mem_of_mem_take early)).1
      · exact fun other => absurd rfl other
      · exact sound.sized attr (List.mem_filter.mp (List.mem_of_mem_drop late)).1
    · rw [length_insertAt, bytes]
      omega

theorem parse_sound {attributesData : Bytes} {attributes : List Attribute}
    (parsed : RadiusAttributesList.parse attributesData = .ok attributes) :
    (∀ attr ∈ attributes, attr.WellSized) ∧ length attributes ≤ attributesData.length := by
  obtain ⟨extraction, extracted, merged⟩ := bind_eq_ok_iff.mp parsed
  have sound := extractAttributes_sound Extraction.start_sound extracted
  rw [Nat.zero_add] at sound
  exact mergeConcatAttributes_sound sound merged

/-- Attributes are read, reported as unparseable, or read forever. -/
theorem parse_error {attributesData : Bytes} {raised : Raised}
    (failed : RadiusAttributesList.parse attributesData = .error raised) :
    (∃ error, raised = .messageParse error) ∨ Stalls attributesData := by
  rcases bind_eq_error_iff.mp failed with early | ⟨extraction, extracted, late⟩
  · exact extractAttributes_error (Nat.le_refl _) early
  · have sound := extractAttributes_sound Extraction.start_sound extracted
    rcases mergeConcatAttributes_eq sound with ⟨_, merged⟩ | ⟨_, _, merged⟩
    · rw [merged] at late
      cases late
    · rw [merged] at late
      cases late

section Endless

theorem extractAttribute_stalled (rest : Bytes) :
    extractAttribute (79 :: 0 :: rest) =
      .ok ({ type := .eapMessage, bytesData := [] }, 79 :: 0 :: rest) := rfl

/-- No number of iterations is enough for a loop that stalls. -/
theorem extractAttributes_unending {attributesData : Bytes} (stalls : Stalls attributesData)
    (fuel : Nat) (extraction : Extraction) :
    extractAttributes fuel attributesData extraction = .error .unending := by
  induction stalls generalizing fuel extraction with
  | here rest =>
      induction fuel generalizing extraction with
      | zero => rfl
      | succ fuel again =>
          rw [extractAttributes, extractAttribute_stalled]
          exact again _
  | @later attributesData remaining attr extracted _ unending =>
      cases attributesData with
      | nil => cases extracted
      | cons byte rest =>
          cases fuel with
          | zero => rfl
          | succ fuel =>
              rw [extractAttributes, extracted]
              exact unending fuel _

/-- Parsing with at most this many iterations of the loop. -/
def parseWithin (fuel : Nat) (attributesData : Bytes) : Except Raised (List Attribute) := do
  let extraction ← extractAttributes fuel attributesData Extraction.start
  mergeConcatAttributes extraction.attributes extraction.attributesToConcat

/-- Parsing ends with attributes or with a `MessageParseError`. -/
def Terminates (attributesData : Bytes) : Prop :=
  ∃ fuel, (∃ attributes, parseWithin fuel attributesData = .ok attributes) ∨
    ∃ error, parseWithin fuel attributesData = .error (.messageParse error)

theorem Stalls.not_terminates {attributesData : Bytes} (stalls : Stalls attributesData) :
    ¬ Terminates attributesData := by
  rintro ⟨fuel, ended⟩
  have unending : parseWithin fuel attributesData = .error .unending := by
    unfold parseWithin
    rw [extractAttributes_unending stalls]
    rfl
  rcases ended with ⟨attributes, parsed⟩ | ⟨error, failed⟩
  · cases unending.symm.trans parsed
  · cases unending.symm.trans failed

/-- For every byte string: parsing ends exactly if the loop does not come to an
EAP-Message whose length byte is zero. -/
theorem parse_terminates_iff (attributesData : Bytes) :
    Terminates attributesData ↔ ¬ Stalls attributesData := by
  refine ⟨fun ended stalls => stalls.not_terminates ended, fun ends => ⟨attributesData.length, ?_⟩⟩
  cases outcome : parseWithin attributesData.length attributesData with
  | ok attributes => exact .inl ⟨attributes, rfl⟩
  | error raised =>
      obtain ⟨error, rfl⟩ := (parse_error outcome).resolve_right ends
      exact .inr ⟨error, rfl⟩

theorem zero_length_unending : ¬ ∀ attributesData, Terminates attributesData := by
  intro always
  have stalls : Stalls [79, 0] := .here []
  exact stalls.not_terminates (always [79, 0])

end Endless

theorem pack_eq_ok {attributes : List Attribute}
    (sized : ∀ attr ∈ attributes, attr.WellSized) :
    ∃ packed, RadiusAttributesList.pack attributes = .ok packed := by
  have each : ∃ parts, attributes.mapM Attribute.pack = .ok parts := by
    induction attributes with
    | nil => exact ⟨[], rfl⟩
    | cons attr rest shorter =>
        obtain ⟨first, packed⟩ := Attribute.pack_eq_ok (sized attr List.mem_cons_self)
        obtain ⟨parts, others⟩ :=
          shorter fun member found => sized member (List.mem_cons_of_mem _ found)
        exact ⟨first :: parts, by rw [List.mapM_cons, packed, ok_bind, others]; rfl⟩
  obtain ⟨parts, packed⟩ := each
  exact ⟨parts.flatten, by rw [RadiusAttributesList.pack, packed]; rfl⟩

end RadiusAttributesList

namespace RadiusPacket

theorem pack_succeeds {packet : RadiusPacket}
    (sized : ∀ attr ∈ packet.attributes, attr.WellSized)
    (short : RadiusAttributesList.length packet.attributes ≤ 60000) :
    ∃ packed, packet.pack = .ok packed := by
  obtain ⟨attributes, packed⟩ := RadiusAttributesList.pack_eq_ok sized
  have fits : 20 + RadiusAttributesList.length packet.attributes < 256 ^ 2 := by omega
  exact ⟨_, by rw [RadiusPacket.pack, packUnsigned_eq_ok fits, packChars, packed]; rfl⟩

theorem zeroMessageAuthenticator_sized {attributes : List Attribute}
    (sized : ∀ attr ∈ attributes, attr.WellSized) :
    (∀ attr ∈ zeroMessageAuthenticator attributes, attr.WellSized) ∧
      RadiusAttributesList.length (zeroMessageAuthenticator attributes) ≤
        RadiusAttributesList.length attributes + 18 := by
  induction attributes with
  | nil => exact ⟨sized, Nat.le_add_right _ _⟩
  | cons attr rest shorter =>
      have restSized : ∀ member ∈ rest, member.WellSized :=
        fun member found => sized member (List.mem_cons_of_mem _ found)
      unfold zeroMessageAuthenticator
      split
      · rename_i isAuthenticator
        have zeroed : (Attribute.mk .messageAuthenticator (List.replicate 16 0)).WellSized :=
          fun _ => ⟨by decide, by decide⟩
        constructor
        · intro member found
          rcases List.mem_cons.mp found with rfl | other
          · rw [isAuthenticator]
            exact zeroed
          · exact restSized member other
        · simp only [isAuthenticator, RadiusAttributesList.length_cons]
          rw [zeroed.fullLength (by decide), List.length_replicate]
          omega
      · obtain ⟨later, bound⟩ := shorter restSized
        constructor
        · intro member found
          rcases List.mem_cons.mp found with rfl | other
          · exact sized _ List.mem_cons_self
          · exact later member other
        · simp only [RadiusAttributesList.length_cons]
          omega

/-- With a secret, checking a packet of moderate length raises nothing else than
that the hashes do not match. -/
theorem validatePacket_reports {hashes : Hashes} {packet : RadiusPacket} {secret request : Bytes}
    {error : ParseError} (sized : ∀ attr ∈ packet.attributes, attr.WellSized)
    (short : RadiusAttributesList.length packet.attributes ≤ 4096) (keyed : secret ≠ []) :
    OnlyReports (reportedAs [.invalidMessageAuthenticator, .invalidResponseAuthenticator] error
      (packet.validatePacket hashes secret request)) := by
  refine onlyReports_reportedAs fun raised failed => .inl ?_
  obtain ⟨answered, answeredPack⟩ :=
    @pack_succeeds { packet with authenticator := request } sized (by dsimp only; omega)
  have zeroed := zeroMessageAuthenticator_sized sized
  obtain ⟨hashed, hashedPack⟩ := @pack_succeeds
    { packet with
      authenticator := request
      attributes := zeroMessageAuthenticator packet.attributes } zeroed.1
    (by dsimp only; omega)
  unfold validatePacket at failed
  rw [if_neg keyed] at failed
  rcases bind_eq_error_iff.mp failed with early | ⟨⟨⟩, _, late⟩
  · unfold validateResponseAuthenticator at early
    split at early
    · rw [answeredPack, ok_bind] at early
      split at early <;> cases early
      simp
    · cases early
  · rcases bind_eq_error_iff.mp late with wrong | ⟨⟨⟩, _, impossible⟩
    · unfold validateMessageAuthenticator at wrong
      split at wrong
      · cases wrong
      · rw [hashedPack, ok_bind] at wrong
        split at wrong <;> cases wrong
        simp
    · cases impossible

end RadiusPacket

namespace Radius

open RadiusAttributesList (Stalls)

/-- A packet of a known type whose attributes are read forever. -/
def Hangs (packedMessage : Bytes) : Prop :=
  (∃ (packetType : PacketType) (packetId : UInt8) (authenticator : Bytes),
      unpackHeader (packedMessage.take 20) = .ok (packetType.code, packetId, authenticator)) ∧
    Stalls (packedMessage.drop 20)

theorem unpackHeader_error {packed : Bytes} {raised : Raised}
    (failed : unpackHeader packed = .error raised) : raised = .structError := by
  unfold unpackHeader at failed
  split at failed
  · split at failed <;> cases failed
    rfl
  · cases failed
    rfl

theorem readPacket_error {packedMessage : Bytes} {raised : Raised}
    (failed : readPacket packedMessage = .error raised) :
    (∃ error, raised = .messageParse error) ∨ Hangs packedMessage := by
  rcases bind_eq_error_iff.mp failed with short | ⟨⟨code, packetId, authenticator⟩, header, rest⟩
  · exact .inl (onlyReports_unpack (fun _ wrong => unpackHeader_error wrong) raised short)
  · rw [reportedAs_eq_ok_iff] at header
    dsimp only at rest
    split at rest
    · cases rest
      exact .inl ⟨_, rfl⟩
    · rename_i packetType found
      cases PacketType.find_code_eq_some_iff.mp found
      rcases bind_eq_error_iff.mp rest with wrong | ⟨attributes, _, impossible⟩
      · rcases RadiusAttributesList.parse_error wrong with reported | stalls
        · exact .inl reported
        · exact .inr ⟨⟨packetType, packetId, authenticator, header⟩, stalls⟩
      · cases impossible

theorem readPacket_sound {packedMessage : Bytes} {packet : RadiusPacket}
    (read : readPacket packedMessage = .ok packet) :
    (∀ attr ∈ packet.attributes, attr.WellSized) ∧
      RadiusAttributesList.length packet.attributes ≤ packedMessage.length := by
  obtain ⟨sized, bound⟩ := RadiusAttributesList.parse_sound (readPacket_eq_ok_iff.mp read).2
  rw [List.length_drop] at bound
  exact ⟨sized, by omega⟩

/-- Parsing a datagram ends, and raises nothing but `MessageParseError`. -/
theorem parse_onlyReports {hashes : Hashes} {packedMessage secret : Bytes}
    {table : Dict UInt8 Bytes} (short : packedMessage.length ≤ 4096)
    (ends : ¬ Hangs packedMessage)
    (keyed : ∀ packet request, readPacket packedMessage = .ok packet →
      requestAuthenticator packet table = .ok request → secret ≠ []) :
    OnlyReports (parse hashes packedMessage secret table) := by
  refine onlyReports_bind ?_ fun packet read => onlyReports_bind ?_ fun request known => ?_
  · intro raised failed
    exact (readPacket_error failed).resolve_right ends
  · unfold requestAuthenticator
    split
    · exact onlyReports_ok _
    · refine onlyReports_reportedAs fun raised failed => .inl ?_
      split at failed <;> cases failed
      simp
  · obtain ⟨sized, bound⟩ := readPacket_sound read
    exact RadiusPacket.validatePacket_reports sized (by omega) (keyed packet request read known)

end Radius

end Daq.Dot1x
