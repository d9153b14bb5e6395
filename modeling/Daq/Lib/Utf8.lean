import Daq.Lib.Bytes

namespace Daq.Utf8

/-! Text as bytes. -/

def encode (text : List Char) : Bytes := text.flatMap String.utf8EncodeChar

/-- A text, or none if the bytes are not those of one. -/
def decode (bytes : Bytes) : Option (List Char) := bytes.toByteArray.utf8Decode?.map Array.toList

theorem encode_append (front behind : List Char) :
    encode (front ++ behind) = encode front ++ encode behind :=
  List.flatMap_append

theorem toByteArray_encode (text : List Char) : (encode text).toByteArray = text.utf8Encode := rfl

theorem decode_encode (text : List Char) : decode (encode text) = some text := by
  rw [decode, toByteArray_encode, List.utf8Decode?_utf8Encode, Option.map_some,
    List.toList_toArray]

theorem encode_injective {first second : List Char} (same : encode first = encode second) :
    first = second := by
  have decoded := decode_encode first
  rw [same, decode_encode, Option.some.injEq] at decoded
  exact decoded.symm

theorem decode_eq_some_iff {bytes : Bytes} {text : List Char} :
    decode bytes = some text ↔ bytes = encode text := by
  constructor
  · intro decoded
    obtain ⟨chars, read, rfl⟩ := Option.map_eq_some_iff.mp decoded
    have present := Option.isSome_of_eq_some read
    have again := @ByteArray.utf8Encode_get_utf8Decode? bytes.toByteArray present
    simp only [read, Option.get_some] at again
    exact List.toByteArray_inj.mp again.symm
  · rintro rfl
    exact decode_encode text

theorem prefix_of_encode_append {front text : List Char} {bytes : Bytes}
    (same : encode front ++ bytes = encode text) : front <+: text := by
  apply List.isPrefix_of_utf8Encode_append_eq_utf8Encode bytes.toByteArray
  rw [← toByteArray_encode, ← toByteArray_encode, ← List.toByteArray_append, same]

/-- Where characters begin at both ends, the bytes between are those of a text. -/
theorem encode_between {front behind : List Char} {bytes : Bytes}
    (same : encode front ++ bytes = encode behind) : ∃ piece, bytes = encode piece := by
  obtain ⟨piece, rfl⟩ := prefix_of_encode_append same
  rw [encode_append] at same
  exact ⟨piece, List.append_cancel_left same⟩

section Pieces

variable {text : List Char} {chunks : List Bytes}

/-- Every chunk ends at the end of a character of the text. -/
def CutAtCharacters (text : List Char) (chunks : List Bytes) : Prop :=
  ∀ count ≤ chunks.length, ∃ front, front <+: text ∧ encode front = (chunks.take count).flatten

theorem flatten_map_encode (pieces : List (List Char)) :
    (pieces.map encode).flatten = encode pieces.flatten := by
  induction pieces with
  | nil => rfl
  | cons piece rest later => rw [List.map_cons, List.flatten_cons, later, List.flatten_cons,
      encode_append]

/-- Chunks that are cut at characters are texts of their own. -/
theorem cutAtCharacters_iff (whole : chunks.flatten = encode text) :
    CutAtCharacters text chunks ↔
      ∃ pieces : List (List Char), chunks = pieces.map encode ∧ pieces.flatten = text := by
  constructor
  · intro cut
    have each : ∀ count ≤ chunks.length,
        ∃ pieces : List (List Char), chunks.take count = pieces.map encode := by
      intro count
      induction count with
      | zero => exact fun _ => ⟨[], rfl⟩
      | succ count shorter =>
          intro within
          obtain ⟨pieces, taken⟩ := shorter (by omega)
          obtain ⟨behind, _, encoded⟩ := cut (count + 1) within
          rw [List.take_succ_eq_append_getElem within, List.flatten_append, taken,
            flatten_map_encode, List.flatten_singleton] at encoded
          obtain ⟨piece, read⟩ := encode_between encoded.symm
          refine ⟨pieces ++ [piece], ?_⟩
          rw [List.take_succ_eq_append_getElem within, taken, read, List.map_append,
            List.map_singleton]
    obtain ⟨pieces, all⟩ := each chunks.length (Nat.le_refl _)
    rw [List.take_length] at all
    refine ⟨pieces, all, ?_⟩
    apply encode_injective
    rw [← flatten_map_encode, ← all, whole]
  · rintro ⟨pieces, rfl, rfl⟩ count _
    refine ⟨(pieces.take count).flatten, ?_, ?_⟩
    · exact ⟨(pieces.drop count).flatten, by rw [← List.flatten_append, List.take_append_drop]⟩
    · rw [← flatten_map_encode, List.map_take]

end Pieces

section Ascii

variable {text : List Char}

theorem encode_ascii (ascii : ∀ char ∈ text, char.toNat < 128) :
    encode text = text.map fun char => UInt8.ofNat char.toNat := by
  induction text with
  | nil => rfl
  | cons char rest later =>
      obtain ⟨here, behind⟩ := List.forall_mem_cons.mp ascii
      have single : char.utf8Size = 1 := by
        rw [Char.utf8Size_eq_one_iff, UInt32.le_iff_toNat_le]
        exact Nat.le_of_lt_succ here
      have encoded := later behind
      rw [encode] at encoded
      rw [encode, List.flatMap_cons, encoded, String.utf8EncodeChar_eq_singleton single]
      rfl

end Ascii

end Daq.Utf8
