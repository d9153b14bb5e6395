import Mathlib.Data.List.Basic

namespace Daq

/-! A rolling summary of a list.  It starts blank and takes over the first word; a word
that differs from it makes it clash, unless it is the lenient word, which is then
overwritten where it stands. -/

structure Rolling (α : Type) where
  blank : α
  lenient : α
  clash : α
  substitute : α
  lenient_ne_blank : lenient ≠ blank
  clash_ne_blank : clash ≠ blank
  clash_ne_lenient : clash ≠ lenient
  substitute_ne_lenient : substitute ≠ lenient

namespace Rolling

variable {α β : Type} [DecidableEq α] (rolling : Rolling α)

def next (summary word : α) : α :=
  if summary ≠ word ∧ summary ≠ rolling.blank then
    if word = rolling.lenient then summary else rolling.clash
  else word

def left (summary word : α) : α :=
  if summary ≠ word ∧ summary ≠ rolling.blank then
    if word = rolling.lenient then rolling.substitute else word
  else word

def summary (words : List α) : α := words.foldl rolling.next rolling.blank

def overwrite : α → List α → List α
  | _, [] => []
  | summary, word :: rest => rolling.left summary word :: overwrite (rolling.next summary word) rest

/-- The words after the list was gone through once. -/
def passed (words : List α) : List α := rolling.overwrite rolling.blank words

/-- The summaries of going through the list several times. -/
def summaries : Nat → List α → List α
  | 0, _ => []
  | count + 1, words => rolling.summary words :: summaries count (rolling.passed words)

/-- A word that is not treated specially. -/
def Ordinary (word : α) : Prop := word ≠ rolling.blank ∧ word ≠ rolling.lenient

section Summary

variable {rolling}

@[simp] theorem next_blank (word : α) : rolling.next rolling.blank word = word := by
  simp [next]

theorem next_self (word : α) : rolling.next word word = word := by
  simp [next]

theorem next_lenient {summary : α} (begun : summary ≠ rolling.blank) :
    rolling.next summary rolling.lenient = summary := by
  by_cases same : summary = rolling.lenient
  · simp [next, same]
  · simp [next, same, begun]

theorem next_other {summary word : α} (begun : summary ≠ rolling.blank) (differs : word ≠ summary)
    (other : word ≠ rolling.lenient) : rolling.next summary word = rolling.clash := by
  simp [next, begun, differs.symm, other]

theorem foldl_clash (words : List α) : words.foldl rolling.next rolling.clash = rolling.clash := by
  induction words with
  | nil => rfl
  | cons word rest later =>
      have stays : rolling.next rolling.clash word = rolling.clash := by
        by_cases same : word = rolling.clash
        · rw [same, next_self]
        · by_cases lenient : word = rolling.lenient
          · rw [lenient, next_lenient rolling.clash_ne_blank]
          · exact next_other rolling.clash_ne_blank same lenient
      rw [List.foldl_cons, stays, later]

/-- Once begun, the summary stays as long as all words agree with it. -/
theorem foldl_next {first : α} (begun : first ≠ rolling.blank) (words : List α) :
    words.foldl rolling.next first =
      if ∀ word ∈ words, word = first ∨ word = rolling.lenient then first else rolling.clash := by
  induction words with
  | nil => simp
  | cons word rest later =>
      by_cases agrees : word = first ∨ word = rolling.lenient
      · have stays : rolling.next first word = first := by
          rcases agrees with rfl | rfl
          · exact next_self word
          · exact next_lenient begun
        rw [List.foldl_cons, stays, later]
        simp [agrees]
      · rw [not_or] at agrees
        rw [List.foldl_cons, next_other begun agrees.1 agrees.2, foldl_clash, if_neg]
        intro all
        rcases all word List.mem_cons_self with same | lenient
        · exact agrees.1 same
        · exact agrees.2 lenient

theorem summary_blanks {blanks : List α} (blank : ∀ word ∈ blanks, word = rolling.blank)
    (words : List α) : rolling.summary (blanks ++ words) = rolling.summary words := by
  induction blanks with
  | nil => rfl
  | cons word rest later =>
      have behind := later fun other member => blank other (List.mem_cons_of_mem _ member)
      rw [blank word List.mem_cons_self, ← behind, summary, List.cons_append, List.foldl_cons,
        next_blank, summary]

theorem summary_cons {first : α} (begun : first ≠ rolling.blank) (words : List α) :
    rolling.summary (first :: words) =
      if ∀ word ∈ words, word = first ∨ word = rolling.lenient then first else rolling.clash := by
  rw [summary, List.foldl_cons, next_blank, foldl_next begun]

theorem blank_or_begun (words : List α) :
    (∀ word ∈ words, word = rolling.blank) ∨
      ∃ blanks first rest, words = blanks ++ first :: rest ∧
        (∀ word ∈ blanks, word = rolling.blank) ∧ first ≠ rolling.blank := by
  induction words with
  | nil => simp
  | cons word rest later =>
      by_cases blank : word = rolling.blank
      · rcases later with all | ⟨blanks, first, behind, rfl, before, begun⟩
        · left
          exact List.forall_mem_cons.mpr ⟨blank, all⟩
        · right
          exact ⟨word :: blanks, first, behind, rfl, List.forall_mem_cons.mpr ⟨blank, before⟩, begun⟩
      · right
        exact ⟨[], word, rest, rfl, List.forall_mem_nil _, blank⟩

/-- An ordinary word is the summary, or it clashes. -/
theorem summary_of_ordinary {words : List α} {word : α} (member : word ∈ words)
    (ordinary : rolling.Ordinary word) :
    rolling.summary words = word ∨ rolling.summary words = rolling.clash := by
  rcases blank_or_begun words with all | ⟨blanks, begun, rest, rfl, blank, started⟩
  · exact absurd (all word member) ordinary.1
  · rw [summary_blanks blank, summary_cons started]
    split
    · rename_i agree
      left
      rcases List.mem_append.mp member with early | late
      · exact absurd (blank word early) ordinary.1
      · rcases List.mem_cons.mp late with same | behind
        · exact same.symm
        · exact ((agree word behind).resolve_right ordinary.2).symm
    · exact .inr rfl

end Summary

section Overwriting

variable {rolling}

theorem left_of_ne (summary : α) {word : α} (other : word ≠ rolling.lenient) :
    rolling.left summary word = word := by
  simp [left, other]

theorem left_blank (word : α) : rolling.left rolling.blank word = word := by
  simp [left]

theorem mem_overwrite {words : List α} {word : α} (member : word ∈ words)
    (other : word ≠ rolling.lenient) (summary : α) : word ∈ rolling.overwrite summary words := by
  induction words generalizing summary with
  | nil => cases member
  | cons first rest later =>
      rcases List.mem_cons.mp member with rfl | behind
      · rw [overwrite, left_of_ne summary other]
        exact List.mem_cons_self
      · exact List.mem_cons_of_mem _ (later behind _)

theorem passed_blanks {blanks : List α} (blank : ∀ word ∈ blanks, word = rolling.blank)
    (words : List α) : rolling.passed (blanks ++ words) = blanks ++ rolling.passed words := by
  induction blanks with
  | nil => rfl
  | cons word rest later =>
      have behind := later fun other member => blank other (List.mem_cons_of_mem _ member)
      rw [passed, List.cons_append, overwrite, left_blank, next_blank,
        blank word List.mem_cons_self, List.cons_append, ← behind, passed]

theorem passed_cons (first : α) (words : List α) :
    rolling.passed (first :: words) = first :: rolling.overwrite first words := by
  rw [passed, overwrite, left_blank, next_blank]

theorem overwrite_of_not_mem {words : List α} (none : rolling.lenient ∉ words) (summary : α) :
    rolling.overwrite summary words = words := by
  induction words generalizing summary with
  | nil => rfl
  | cons word rest later =>
      rw [List.mem_cons, not_or] at none
      rw [overwrite, left_of_ne summary (Ne.symm none.1), later none.2]

theorem overwrite_append (summary : α) (first second : List α) :
    rolling.overwrite summary (first ++ second) =
      rolling.overwrite summary first ++
        rolling.overwrite (first.foldl rolling.next summary) second := by
  induction first generalizing summary with
  | nil => rfl
  | cons word rest later =>
      rw [List.cons_append, overwrite, later, overwrite, List.foldl_cons, List.cons_append]

theorem passed_append_eq_self_iff {words extra : List α} (none : rolling.lenient ∉ extra) :
    rolling.passed (words ++ extra) = words ++ extra ↔ rolling.passed words = words := by
  rw [passed, overwrite_append, overwrite_of_not_mem none, List.append_cancel_right_eq, passed]

/-- Past an ordinary beginning every lenient word is overwritten. -/
theorem overwrite_ordinary {summary : α} (ordinary : rolling.Ordinary summary) {words : List α} :
    rolling.overwrite summary words = words ↔ rolling.lenient ∉ words := by
  constructor
  · induction words generalizing summary with
    | nil => simp
    | cons word rest later =>
        intro same
        rw [overwrite, List.cons.injEq] at same
        obtain ⟨kept, behind⟩ := same
        have other : word ≠ rolling.lenient := by
          intro lenient
          have differs : summary ≠ rolling.lenient := ordinary.2
          rw [lenient, left, if_pos ⟨differs, ordinary.1⟩, if_pos rfl] at kept
          exact rolling.substitute_ne_lenient kept
        have still : rolling.Ordinary (rolling.next summary word) := by
          by_cases equal : word = summary
          · rw [equal, next_self]
            exact ordinary
          · rw [next_other ordinary.1 equal other]
            exact ⟨rolling.clash_ne_blank, rolling.clash_ne_lenient⟩
        rw [List.mem_cons, not_or]
        exact ⟨other.symm, later still behind⟩
  · intro none
    exact overwrite_of_not_mem none summary

theorem overwrite_lenient {words : List α} :
    rolling.overwrite rolling.lenient words = words ↔
      ∃ leading rest, words = leading ++ rest ∧ (∀ word ∈ leading, word = rolling.lenient) ∧
        rolling.lenient ∉ rest := by
  induction words with
  | nil => exact iff_of_true rfl ⟨[], [], rfl, by simp, by simp⟩
  | cons word rest later =>
      by_cases lenient : word = rolling.lenient
      · have stays : rolling.left rolling.lenient rolling.lenient = rolling.lenient := by
          simp [left]
        rw [lenient, overwrite, next_self, stays, List.cons.injEq, later]
        constructor
        · rintro ⟨_, leading, behind, rfl, all, none⟩
          exact ⟨rolling.lenient :: leading, behind, rfl, by simpa using all, none⟩
        · rintro ⟨leading, behind, split, all, none⟩
          refine ⟨rfl, ?_⟩
          cases leading with
          | nil => simp [← show _ = behind from split] at none
          | cons first leading =>
              cases split
              exact ⟨leading, behind, rfl, fun other member => all other (by simp [member]), none⟩
      · have clashes := next_other rolling.lenient_ne_blank lenient lenient
        have ordinary : rolling.Ordinary rolling.clash :=
          ⟨rolling.clash_ne_blank, rolling.clash_ne_lenient⟩
        rw [overwrite, clashes, left_of_ne _ lenient, List.cons.injEq, overwrite_ordinary ordinary]
        constructor
        · rintro ⟨_, none⟩
          exact ⟨[], word :: rest, rfl, by simp, by simp [Ne.symm lenient, none]⟩
        · rintro ⟨leading, behind, split, all, none⟩
          cases leading with
          | nil =>
              cases split
              rw [List.mem_cons, not_or] at none
              exact ⟨rfl, none.2⟩
          | cons first leading =>
              rw [List.cons_append, List.cons.injEq] at split
              exact absurd (split.1.trans (all first List.mem_cons_self)) lenient

/-- Nothing is overwritten exactly if the lenient words follow each other, with only blank
ones before them. -/
theorem passed_eq_self_iff {words : List α} :
    rolling.passed words = words ↔
      ∃ blanks leading rest, words = blanks ++ leading ++ rest ∧
        (∀ word ∈ blanks, word = rolling.blank) ∧ (∀ word ∈ leading, word = rolling.lenient) ∧
        rolling.lenient ∉ rest := by
  constructor
  · intro same
    rcases blank_or_begun words with all | ⟨blanks, first, rest, rfl, blank, begun⟩
    · exact ⟨words, [], [], by simp, all, by simp, by simp⟩
    · rw [passed_blanks blank, passed_cons, List.append_cancel_left_eq, List.cons.injEq] at same
      by_cases lenient : first = rolling.lenient
      · rw [lenient, overwrite_lenient] at same
        obtain ⟨_, leading, behind, rfl, all, none⟩ := same
        exact ⟨blanks, first :: leading, behind, by simp, blank, by simpa [lenient] using all, none⟩
      · have ordinary : rolling.Ordinary first := ⟨begun, lenient⟩
        have none := (overwrite_ordinary ordinary).mp same.2
        exact ⟨blanks, [], first :: rest, by simp, blank, by simp, by simp [Ne.symm lenient, none]⟩
  · rintro ⟨blanks, leading, rest, rfl, blank, all, none⟩
    rw [List.append_assoc, passed_blanks blank]
    cases leading with
    | nil => rw [List.nil_append, passed, overwrite_of_not_mem none]
    | cons first leading =>
        have lenient := all first List.mem_cons_self
        rw [List.cons_append, passed_cons, lenient]
        apply congrArg (fun words => blanks ++ rolling.lenient :: words)
        apply overwrite_lenient.mpr
        exact ⟨leading, rest, rfl, fun word member => all word (List.mem_cons_of_mem _ member), none⟩

end Overwriting

end Rolling

end Daq
