import Daq.Lib.Grouped
import Daq.Lib.Rolling

namespace Daq

namespace Rolling

variable {α β : Type} [DecidableEq α] {rolling : Rolling α}

/-! When the order of the words does not show in the summaries. -/

instance (word : α) : Decidable (rolling.Ordinary word) :=
  inferInstanceAs (Decidable (_ ∧ _))

theorem blank_or_lenient {word : α} (special : ¬ rolling.Ordinary word) :
    word = rolling.blank ∨ word = rolling.lenient := by
  by_cases blank : word = rolling.blank
  · exact .inl blank
  · exact .inr (not_not.mp fun lenient => special ⟨blank, lenient⟩)

/-- The first word that is not blank is contradicted behind it. -/
def Clashes (rolling : Rolling α) (words : List α) : Prop :=
  ∃ blanks first rest, words = blanks ++ first :: rest ∧ (∀ word ∈ blanks, word = rolling.blank) ∧
    first ≠ rolling.blank ∧ ∃ word ∈ rest, word ≠ first ∧ word ≠ rolling.lenient

namespace Clashes

variable {words : List α}

theorem summary (clashes : rolling.Clashes words) : rolling.summary words = rolling.clash := by
  obtain ⟨blanks, first, rest, rfl, blank, begun, word, member, differs, other⟩ := clashes
  rw [summary_blanks blank, summary_cons begun, if_neg]
  intro agree
  rcases agree word member with same | lenient
  · exact differs same
  · exact other lenient

theorem passed (clashes : rolling.Clashes words) : rolling.Clashes (rolling.passed words) := by
  obtain ⟨blanks, first, rest, rfl, blank, begun, word, member, differs, other⟩ := clashes
  rw [passed_blanks blank, passed_cons]
  exact ⟨blanks, first, _, rfl, blank, begun, word, mem_overwrite member other first, differs, other⟩

omit [DecidableEq α] in
theorem blanks_append {blanks : List α} (blank : ∀ word ∈ blanks, word = rolling.blank)
    (clashes : rolling.Clashes words) : rolling.Clashes (blanks ++ words) := by
  obtain ⟨others, first, rest, rfl, otherBlank, begun, contradicted⟩ := clashes
  refine ⟨blanks ++ others, first, rest, (List.append_assoc _ _ _).symm, ?_, begun, contradicted⟩
  exact List.forall_mem_append.mpr ⟨blank, otherBlank⟩

omit [DecidableEq α] in
theorem append (clashes : rolling.Clashes words) (extra : List α) :
    rolling.Clashes (words ++ extra) := by
  obtain ⟨blanks, first, rest, rfl, blank, begun, word, member, contradicts⟩ := clashes
  refine ⟨blanks, first, rest ++ extra, ?_, blank, begun, word, List.mem_append_left _ member,
    contradicts⟩
  rw [List.append_assoc, List.cons_append]

theorem of_two {first second : α} (firstMember : first ∈ words) (secondMember : second ∈ words)
    (firstOrdinary : rolling.Ordinary first) (secondOrdinary : rolling.Ordinary second)
    (differ : first ≠ second) : rolling.Clashes words := by
  rcases @blank_or_begun α _ rolling words with all | ⟨blanks, begun, rest, rfl, blank, started⟩
  · exact absurd (all first firstMember) firstOrdinary.1
  · have behind : ∀ {word : α}, word ∈ blanks ++ begun :: rest → rolling.Ordinary word →
        word ≠ begun → word ∈ rest := by
      intro word member ordinary differs
      rcases List.mem_append.mp member with early | late
      · exact absurd (blank word early) ordinary.1
      · exact (List.mem_cons.mp late).resolve_left differs
    by_cases same : first = begun
    · have differs : second ≠ begun := fun equal => differ (same.trans equal.symm)
      exact ⟨blanks, begun, rest, rfl, blank, started, second,
        behind secondMember secondOrdinary differs, differs, secondOrdinary.2⟩
    · exact ⟨blanks, begun, rest, rfl, blank, started, first,
        behind firstMember firstOrdinary same, same, firstOrdinary.2⟩

theorem of_blank {first second : List α} {word : α} (begins : word ∈ first)
    (begun : word ≠ rolling.blank) (blank : rolling.blank ∈ second) :
    rolling.Clashes (first ++ second) := by
  rcases @blank_or_begun α _ rolling first with all | ⟨blanks, start, rest, rfl, before, started⟩
  · exact absurd (all word begins) begun
  · refine ⟨blanks, start, rest ++ second, ?_, before, started, rolling.blank,
      List.mem_append_right _ blank, started.symm, rolling.lenient_ne_blank.symm⟩
    rw [List.append_assoc, List.cons_append]

theorem of_lenient {first second : List α} {word : α} (lenient : rolling.lenient ∈ first)
    (special : ∀ word ∈ first, ¬ rolling.Ordinary word) (member : word ∈ second)
    (ordinary : rolling.Ordinary word) : rolling.Clashes (first ++ second) := by
  rcases @blank_or_begun α _ rolling first with all | ⟨blanks, start, rest, rfl, before, started⟩
  · exact absurd (all _ lenient) rolling.lenient_ne_blank
  · have isLenient : start = rolling.lenient :=
      (blank_or_lenient (special start (by simp))).resolve_left started
    refine ⟨blanks, start, rest ++ second, ?_, before, started, word,
      List.mem_append_right _ member, ?_, ordinary.2⟩
    · rw [List.append_assoc, List.cons_append]
    · rw [isLenient]
      exact ordinary.2

end Clashes

/-- A property of lists that going through them keeps decides all summaries. -/
theorem summaries_constant {shown : α → β} {Holds : List α → Prop} {shows : β}
    (keeps : ∀ words, Holds words → Holds (rolling.passed words))
    (constant : ∀ words, Holds words → shown (rolling.summary words) = shows)
    {words : List α} (holds : Holds words) (count : Nat) :
    (rolling.summaries count words).map shown = List.replicate count shows := by
  induction count generalizing words with
  | zero => rfl
  | succ count later =>
      rw [summaries, List.map_cons, constant words holds, later (keeps words holds),
        List.replicate_succ]

theorem Clashes.summaries {words : List α} (clashes : rolling.Clashes words) (shown : α → β)
    (count : Nat) :
    (rolling.summaries count words).map shown = List.replicate count (shown rolling.clash) := by
  apply @summaries_constant α β _ rolling shown rolling.Clashes
  · intro words clashes
    exact clashes.passed
  · intro words clashes
    rw [clashes.summary]
  · exact clashes

theorem summaries_of_clashing {shown : α → β} {words : List α} {word : α} (member : word ∈ words)
    (ordinary : rolling.Ordinary word) (clashes : shown word = shown rolling.clash)
    (count : Nat) :
    (rolling.summaries count words).map shown = List.replicate count (shown rolling.clash) := by
  apply @summaries_constant α β _ rolling shown fun words => word ∈ words
  · intro words inside
    exact mem_overwrite inside ordinary.2 _
  · intro words inside
    rcases summary_of_ordinary inside ordinary with same | clash
    · rw [same, clashes]
    · rw [clash]
  · exact member

/-- All orders lead to the same: there are two ordinary words, or one that shows like a
clash, or no two words, or only words that are not ordinary before some that are. -/
def Settled (rolling : Rolling α) (shown : α → β) (extra : List α) (words : List α) : Prop :=
  (∃ first ∈ words ++ extra, ∃ second ∈ words ++ extra,
      rolling.Ordinary first ∧ rolling.Ordinary second ∧ first ≠ second) ∨
    (∃ word ∈ words ++ extra, rolling.Ordinary word ∧ shown word = shown rolling.clash) ∨
    (∀ first ∈ words, ∀ second ∈ words, first = second) ∨
    extra ≠ [] ∧ ∀ word ∈ words, ¬ rolling.Ordinary word

def Mixed (rolling : Rolling α) (group : List α) : Prop :=
  rolling.blank ∈ group ∧ ∃ word ∈ group, word ≠ rolling.blank

instance (group : List α) : Decidable (rolling.Mixed group) :=
  inferInstanceAs (Decidable (_ ∧ _))

/-- The blank words cannot all come first: two groups are mixed, or one is and has no
ordinary word although there are some. -/
def Tangled (rolling : Rolling α) (groups : List (List α)) : Prop :=
  2 ≤ groups.countP (fun group => rolling.Mixed group) ∨
    (∃ group ∈ groups, rolling.Mixed group ∧ ∀ word ∈ group, ¬ rolling.Ordinary word) ∧
      ∃ word ∈ groups.flatten, rolling.Ordinary word

section Sufficient

variable {shown : α → β} {extra words order : List α} {groups : List (List α)}

/-- The earlier of two mixed groups has a word that the blank one of the later contradicts. -/
theorem clashes_of_countP (several : 2 ≤ groups.countP fun group => rolling.Mixed group) :
    rolling.Clashes groups.flatten := by
  induction groups with
  | nil => simp at several
  | cons group rest later =>
      rw [List.flatten_cons]
      by_cases all : ∀ word ∈ group, word = rolling.blank
      · have pure : ¬ rolling.Mixed group := by
          intro ⟨_, word, member, begun⟩
          exact begun (all word member)
        apply Clashes.blanks_append all
        apply later
        simpa [List.countP_cons, pure] using several
      · push Not at all
        obtain ⟨word, member, begun⟩ := all
        have another : 0 < rest.countP fun group => rolling.Mixed group := by
          rw [List.countP_cons] at several
          split at several
          · omega
          · omega
        obtain ⟨second, inside, mixed⟩ := List.countP_pos_iff.mp another
        have isMixed : rolling.Mixed second := by simpa using mixed
        exact .of_blank member begun (List.mem_flatten.mpr ⟨second, inside, isMixed.1⟩)

/-- A mixed group begins with a lenient word, or a blank one comes too late. -/
theorem clashes_of_special {group : List α} (inside : group ∈ groups)
    (mixed : rolling.Mixed group) (special : ∀ word ∈ group, ¬ rolling.Ordinary word)
    {word : α} (member : word ∈ groups.flatten) (ordinary : rolling.Ordinary word) :
    rolling.Clashes groups.flatten := by
  obtain ⟨before, behind, rfl⟩ := List.append_of_mem inside
  rw [List.flatten_append, List.flatten_cons] at member ⊢
  by_cases all : ∀ word ∈ before.flatten, word = rolling.blank
  · have late : word ∈ behind.flatten := by
      rcases List.mem_append.mp member with early | late
      · exact absurd (all word early) ordinary.1
      · rcases List.mem_append.mp late with here | late
        · exact absurd ordinary (special word here)
        · exact late
    obtain ⟨_, other, here, begun⟩ := mixed
    have lenient := (blank_or_lenient (special other here)).resolve_left begun
    apply Clashes.blanks_append all
    exact .of_lenient (lenient ▸ here) special late ordinary
  · push Not at all
    obtain ⟨other, early, begun⟩ := all
    exact .of_blank early begun (List.mem_append_left _ mixed.1)

omit [DecidableEq α] in
theorem mixed_congr {first second : List α} (perm : first.Perm second) :
    rolling.Mixed first ↔ rolling.Mixed second := by
  unfold Mixed
  simp only [perm.mem_iff]

theorem countP_mixed {chosen shuffled : List (List α)}
    (perms : List.Forall₂ List.Perm chosen shuffled) :
    (shuffled.countP fun group => rolling.Mixed group) =
      chosen.countP fun group => rolling.Mixed group := by
  induction perms with
  | nil => rfl
  | cons head _ later =>
      rw [List.countP_cons, List.countP_cons, later]
      simp only [mixed_congr head]

omit [DecidableEq α] in
theorem exists_shuffled {chosen shuffled : List (List α)}
    (perms : List.Forall₂ List.Perm chosen shuffled) {group : List α} (inside : group ∈ chosen) :
    ∃ other ∈ shuffled, group.Perm other := by
  induction perms with
  | nil => cases inside
  | @cons first second _ _ head _ later =>
      rcases List.mem_cons.mp inside with rfl | behind
      · exact ⟨second, List.mem_cons_self, head⟩
      · obtain ⟨other, member, perm⟩ := later behind
        exact ⟨other, List.mem_cons_of_mem _ member, perm⟩

theorem Tangled.clashes (tangled : rolling.Tangled groups) (arranges : Arranges groups order) :
    rolling.Clashes order := by
  have same := arranges.perm
  obtain ⟨chosen, shuffled, groupPerm, perms, rfl⟩ := arranges
  cases tangled with
  | inl several =>
      apply clashes_of_countP
      rw [countP_mixed perms, groupPerm.countP_eq]
      exact several
  | inr special =>
      obtain ⟨⟨group, inside, mixed, special⟩, word, member, ordinary⟩ := special
      obtain ⟨other, among, perm⟩ := exists_shuffled perms (groupPerm.mem_iff.mpr inside)
      apply clashes_of_special among ((mixed_congr perm).mp mixed)
      · intro word here
        exact special word (perm.mem_iff.mpr here)
      · exact same.mem_iff.mpr member
      · exact ordinary

omit [DecidableEq α] in
theorem perm_eq {words order : List α} (perm : order.Perm words)
    (same : ∀ first ∈ words, ∀ second ∈ words, first = second) : order = words := by
  cases words with
  | nil => exact perm.eq_nil
  | cons word rest =>
      have all : word :: rest = List.replicate (word :: rest).length word := by
        apply List.eq_replicate_iff.mpr
        exact ⟨rfl, fun other member => same other member word List.mem_cons_self⟩
      rw [all] at perm ⊢
      exact List.perm_replicate.mp perm

theorem Settled.summaries_eq (settled : rolling.Settled shown extra words)
    (ordinary : ∀ word ∈ extra, rolling.Ordinary word) (perm : order.Perm words) (count : Nat) :
    (rolling.summaries count (order ++ extra)).map shown =
      (rolling.summaries count (words ++ extra)).map shown := by
  have mem_order : ∀ {word : α}, word ∈ words ++ extra → word ∈ order ++ extra :=
    fun member => (perm.append_right extra).mem_iff.mpr member
  rcases settled with ⟨first, one, second, other, firstOrdinary, secondOrdinary, differ⟩ |
    ⟨word, member, isOrdinary, clashes⟩ | same | ⟨some, special⟩
  · have clashes := Clashes.of_two one other firstOrdinary secondOrdinary differ
    have again := Clashes.of_two (mem_order one) (mem_order other) firstOrdinary secondOrdinary differ
    rw [clashes.summaries, again.summaries]
  · rw [summaries_of_clashing (mem_order member) isOrdinary clashes,
      summaries_of_clashing member isOrdinary clashes]
  · rw [perm_eq perm same]
  · by_cases lenient : rolling.lenient ∈ words
    · obtain ⟨word, last⟩ := List.exists_mem_of_ne_nil extra some
      have clashes := Clashes.of_lenient lenient special last (ordinary word last)
      have again : rolling.Clashes (order ++ extra) := by
        apply Clashes.of_lenient (perm.mem_iff.mpr lenient) _ last (ordinary word last)
        intro word member
        exact special word (perm.mem_iff.mp member)
      rw [clashes.summaries, again.summaries]
    · have blank : ∀ word ∈ words, word = rolling.blank := by
        intro word member
        apply (blank_or_lenient (special word member)).resolve_right
        intro isLenient
        exact lenient (isLenient ▸ member)
      rw [perm_eq perm fun first one second other => (blank first one).trans (blank second other).symm]

end Sufficient

section Necessary

variable {shown : α → β} {extra words : List α} {groups : List (List α)}

/-- An order that avoids clashes where that can be done. -/
def sorted (rolling : Rolling α) (words : List α) : List α :=
  words.filter (fun word => word = rolling.blank) ++
    (words.filter (fun word => rolling.Ordinary word) ++
      words.filter fun word => word = rolling.lenient)

theorem sorted_perm (words : List α) : (rolling.sorted words).Perm words := by
  have begun : words.filter (fun word => rolling.Ordinary word) =
      (words.filter fun word => ¬ word = rolling.blank).filter
        fun word => ¬ word = rolling.lenient := by
    rw [List.filter_filter]
    apply List.filter_congr
    intro word _
    by_cases lenient : word = rolling.lenient
    · simp [Ordinary, lenient]
    · simp [Ordinary, lenient]
  have lenient : words.filter (fun word => word = rolling.lenient) =
      (words.filter fun word => ¬ word = rolling.blank).filter
        fun word => word = rolling.lenient := by
    rw [List.filter_filter]
    apply List.filter_congr
    intro word _
    by_cases lenient : word = rolling.lenient
    · simp [lenient, rolling.lenient_ne_blank]
    · simp [lenient]
  have outer := List.filter_append_perm (fun word => decide (word = rolling.blank)) words
  have inner := List.filter_append_perm (fun word => decide (word = rolling.lenient))
    (words.filter fun word => ¬ word = rolling.blank)
  rw [sorted, begun, lenient]
  simp only [decide_not] at outer inner ⊢
  exact ((List.perm_append_comm.trans inner).append_left _).trans outer

theorem exists_leader (few : (groups.countP fun group => rolling.Mixed group) < 2)
    (begun : ∀ group ∈ groups, ∃ word ∈ group, word ≠ rolling.blank)
    (led : ∀ word ∈ groups.flatten, rolling.Ordinary word → ∀ group ∈ groups,
      rolling.Mixed group → ∃ other ∈ group, rolling.Ordinary other) (some : groups ≠ []) :
    ∃ before leader behind, groups = before ++ leader :: behind ∧
      (∀ group ∈ before ++ behind, rolling.blank ∉ group) ∧
      ∀ word ∈ groups.flatten, rolling.Ordinary word → ∃ other ∈ leader, rolling.Ordinary other := by
  by_cases mixed : ∃ group ∈ groups, rolling.Mixed group
  · obtain ⟨leader, inside, mixed⟩ := mixed
    obtain ⟨before, behind, rfl⟩ := List.append_of_mem inside
    refine ⟨before, leader, behind, rfl, ?_, fun word member ordinary =>
      led word member ordinary leader inside mixed⟩
    intro group member blank
    have among : group ∈ before ++ leader :: behind := by
      rcases List.mem_append.mp member with early | late
      · exact List.mem_append_left _ early
      · exact List.mem_append_right _ (List.mem_cons_of_mem _ late)
    have another : 0 < (before ++ behind).countP fun group => rolling.Mixed group := by
      apply List.countP_pos_iff.mpr
      exact ⟨group, member, by simpa using ⟨blank, begun group among⟩⟩
    rw [List.countP_append, List.countP_cons_of_pos (by simpa using mixed)] at few
    rw [List.countP_append] at another
    omega
  · have pure : ∀ group ∈ groups, rolling.blank ∉ group :=
      fun group inside blank => mixed ⟨group, inside, blank, begun group inside⟩
    have others : ∀ {before leader behind : _}, groups = before ++ leader :: behind →
        ∀ group ∈ before ++ behind, rolling.blank ∉ group := by
      intro before leader behind same group member
      apply pure
      rw [same]
      rcases List.mem_append.mp member with early | late
      · exact List.mem_append_left _ early
      · exact List.mem_append_right _ (List.mem_cons_of_mem _ late)
    by_cases ordinary : ∃ word ∈ groups.flatten, rolling.Ordinary word
    · obtain ⟨word, member, isOrdinary⟩ := ordinary
      obtain ⟨leader, inside, here⟩ := List.mem_flatten.mp member
      obtain ⟨before, behind, same⟩ := List.append_of_mem inside
      exact ⟨before, leader, behind, same, others same, fun _ _ _ => ⟨word, here, isOrdinary⟩⟩
    · obtain ⟨leader, behind, same⟩ := List.exists_cons_of_ne_nil some
      refine ⟨[], leader, behind, same, others same, ?_⟩
      intro word member isOrdinary
      exact absurd ⟨word, member, isOrdinary⟩ ordinary

theorem exists_parts (groups : List (List α)) :
    ∃ pure others : List (List α), (pure ++ others).Perm groups ∧
      (∀ word ∈ pure.flatten, word = rolling.blank) ∧
      (∀ group ∈ others, group ∈ groups) ∧
      (∀ group ∈ others, ∃ word ∈ group, word ≠ rolling.blank) ∧
      (others.countP fun group => rolling.Mixed group) ≤
        groups.countP fun group => rolling.Mixed group := by
  refine ⟨_, _, List.filter_append_perm
    (fun group : List α => decide (∀ word ∈ group, word = rolling.blank)) groups, ?_, ?_, ?_, ?_⟩
  · intro word member
    obtain ⟨group, inside, here⟩ := List.mem_flatten.mp member
    have all : ∀ word ∈ group, word = rolling.blank := by simpa using (List.mem_filter.mp inside).2
    exact all word here
  · intro group inside
    exact (List.mem_filter.mp inside).1
  · intro group inside
    simpa using (List.mem_filter.mp inside).2
  · exact List.filter_sublist.countP_le

/-- Groups that are not tangled have an order in which the blank words come first, and then
an ordinary one if there is one. -/
theorem exists_calm (few : (groups.countP fun group => rolling.Mixed group) < 2)
    (led : ∀ word ∈ groups.flatten, rolling.Ordinary word → ∀ group ∈ groups,
      rolling.Mixed group → ∃ other ∈ group, rolling.Ordinary other) :
    ∃ blanks rest, Arranges groups (blanks ++ rest) ∧ (∀ word ∈ blanks, word = rolling.blank) ∧
      rolling.blank ∉ rest ∧ ∀ word ∈ rest, rolling.Ordinary word →
        ∃ first behind, rest = first :: behind ∧ rolling.Ordinary first := by
  obtain ⟨pure, others, parts, pureBlank, inside, begun, fewer⟩ := @exists_parts α _ rolling groups
  have ledOthers : ∀ word ∈ others.flatten, rolling.Ordinary word → ∀ group ∈ others,
      rolling.Mixed group → ∃ other ∈ group, rolling.Ordinary other := by
    intro word member ordinary group among
    obtain ⟨home, atHome, here⟩ := List.mem_flatten.mp member
    exact led word (List.mem_flatten.mpr ⟨home, inside home atHome, here⟩) ordinary group
      (inside group among)
  by_cases some : others = []
  · rw [some, List.append_nil] at parts
    refine ⟨pure.flatten, [], ⟨pure, pure, parts, forall₂_perm_refl pure, List.append_nil _⟩,
      pureBlank, List.not_mem_nil, ?_⟩
    intro word member
    cases member
  · obtain ⟨before, leader, behind, split, clean, leads⟩ :=
      exists_leader (Nat.lt_of_le_of_lt fewer few) begun ledOthers some
    have ordinaries : ∀ word ∈ leader.filter (fun word => rolling.Ordinary word),
        rolling.Ordinary word := by
      intro word member
      simpa using (List.mem_filter.mp member).2
    refine ⟨pure.flatten ++ leader.filter (fun word => word = rolling.blank),
      leader.filter (fun word => rolling.Ordinary word) ++
        (leader.filter (fun word => word = rolling.lenient) ++ (before ++ behind).flatten),
      ⟨pure ++ leader :: (before ++ behind), pure ++ rolling.sorted leader :: (before ++ behind),
        ?_, ?_, ?_⟩, ?_, ?_, ?_⟩
    · rw [split] at parts
      exact (List.perm_middle.symm.append_left pure).trans parts
    · exact List.rel_append (forall₂_perm_refl pure)
        (.cons (sorted_perm leader).symm (forall₂_perm_refl _))
    · simp [sorted]
    · refine List.forall_mem_append.mpr ⟨pureBlank, ?_⟩
      intro word member
      simpa using (List.mem_filter.mp member).2
    · intro blank
      rcases List.mem_append.mp blank with early | late
      · exact (ordinaries _ early).1 rfl
      · rcases List.mem_append.mp late with lenient | other
        · have equal : rolling.blank = rolling.lenient := by
            simpa using (List.mem_filter.mp lenient).2
          exact rolling.lenient_ne_blank equal.symm
        · obtain ⟨group, member, here⟩ := List.mem_flatten.mp other
          exact clean group member here
    · intro word member ordinary
      have among : word ∈ others.flatten := by
        rw [split, List.flatten_append, List.flatten_cons]
        simp only [List.mem_append, List.flatten_append, List.mem_filter] at member ⊢
        tauto
      obtain ⟨first, here, isOrdinary⟩ := leads word among ordinary
      cases found : leader.filter (fun word => rolling.Ordinary word) with
      | nil =>
          have absent := List.filter_eq_nil_iff.mp found first here
          exact absurd isOrdinary (by simpa using absent)
      | cons other rest =>
          exact ⟨other, _, List.cons_append, ordinaries other (by simp [found])⟩

theorem summary_calm {blanks rest : List α} {word : α}
    (blank : ∀ word ∈ blanks, word = rolling.blank) (none : rolling.blank ∉ rest)
    (leads : ∀ word ∈ rest, rolling.Ordinary word →
      ∃ first behind, rest = first :: behind ∧ rolling.Ordinary first)
    (unique : ∀ other ∈ blanks ++ rest ++ extra, rolling.Ordinary other → other = word)
    (ordinary : ∀ word ∈ extra, rolling.Ordinary word) (member : word ∈ rest)
    (isOrdinary : rolling.Ordinary word) :
    rolling.summary (blanks ++ rest ++ extra) = word := by
  obtain ⟨first, behind, rfl, firstOrdinary⟩ := leads word member isOrdinary
  have same : first = word := unique first (by simp) firstOrdinary
  rw [List.append_assoc, summary_blanks blank, List.cons_append, summary_cons firstOrdinary.1,
    if_pos, same]
  intro other late
  by_cases isOne : rolling.Ordinary other
  · left
    rw [same]
    apply unique other _ isOne
    rw [List.append_assoc]
    exact List.mem_append_right _ (List.mem_cons_of_mem _ late)
  · right
    apply (blank_or_lenient isOne).resolve_left
    intro isBlank
    rcases List.mem_append.mp late with early | last
    · exact none (isBlank ▸ List.mem_cons_of_mem _ early)
    · exact isOne (ordinary other last)

theorem summary_lenient {blanks rest : List α} (blank : ∀ word ∈ blanks, word = rolling.blank)
    (none : rolling.blank ∉ rest) (special : ∀ word ∈ rest, ¬ rolling.Ordinary word)
    (some : rest ≠ []) : rolling.summary (blanks ++ rest) = rolling.lenient := by
  have lenient : ∀ word ∈ rest, word = rolling.lenient := by
    intro word member
    apply (blank_or_lenient (special word member)).resolve_left
    intro isBlank
    exact none (isBlank ▸ member)
  obtain ⟨first, behind, rfl⟩ := List.exists_cons_of_ne_nil some
  rw [summary_blanks blank, lenient first List.mem_cons_self,
    summary_cons rolling.lenient_ne_blank, if_pos]
  intro word member
  exact .inl (lenient word (List.mem_cons_of_mem _ member))

omit [DecidableEq α] in
/-- Where two different words are and one is not blank, an order that clashes can be found. -/
theorem exists_clash {first second : α} (firstMember : first ∈ groups.flatten)
    (secondMember : second ∈ groups.flatten) (begun : first ≠ rolling.blank)
    (differ : second ≠ first) (other : second ≠ rolling.lenient) :
    ∃ order, Arranges groups order ∧ rolling.Clashes (order ++ extra) := by
  obtain ⟨rest, arranges⟩ := Arranges.exists_cons firstMember
  have late : second ∈ rest :=
    (List.mem_cons.mp (arranges.perm.mem_iff.mpr secondMember)).resolve_left differ
  refine ⟨_, arranges, Clashes.append ?_ extra⟩
  exact ⟨[], first, rest, rfl, List.forall_mem_nil _, begun, second, late, differ, other⟩

/-- Groups that are neither settled nor tangled have an order with a clash and one without. -/
theorem settled_or_tangled
    (constant : ∀ order, Arranges groups order →
      shown (rolling.summary (order ++ extra)) = shown (rolling.summary (groups.flatten ++ extra)))
    (ordinary : ∀ word ∈ extra, rolling.Ordinary word)
    (differ : shown rolling.lenient ≠ shown rolling.clash) :
    rolling.Settled shown extra groups.flatten ∨ rolling.Tangled groups := by
  by_contra neither
  rw [Settled, Tangled, not_or, not_or, not_or, not_or, not_or] at neither
  obtain ⟨⟨onlyOne, noClash, several, notLast⟩, few, notSpecial⟩ := neither
  push Not at several
  obtain ⟨first, one, second, other, distinct⟩ := several
  have led : ∀ word ∈ groups.flatten, rolling.Ordinary word → ∀ group ∈ groups,
      rolling.Mixed group → ∃ other ∈ group, rolling.Ordinary other := by
    intro word member isOrdinary group inside mixed
    by_contra none
    push Not at none
    exact notSpecial ⟨⟨group, inside, mixed, none⟩, word, member, isOrdinary⟩
  obtain ⟨blanks, rest, arranges, blank, clean, leads⟩ := exists_calm (by omega) led
  have calm := constant (blanks ++ rest) arranges
  have begins : ∀ {word : α}, word ∈ groups.flatten → word ≠ rolling.blank → word ∈ rest := by
    intro word member begun
    rcases List.mem_append.mp (arranges.perm.mem_iff.mpr member) with early | late
    · exact absurd (blank word early) begun
    · exact late
  by_cases some : ∃ word ∈ groups.flatten, rolling.Ordinary word
  · obtain ⟨word, member, isOrdinary⟩ := some
    have unique : ∀ other ∈ groups.flatten ++ extra, rolling.Ordinary other → other = word := by
      intro other inside isOne
      by_contra differs
      exact onlyOne ⟨other, inside, word, List.mem_append_left extra member, isOne, isOrdinary,
        differs⟩
    have odd : ∃ odd ∈ groups.flatten, odd ≠ word := by
      by_cases same : first = word
      · exact ⟨second, other, fun equal => distinct (same.trans equal.symm)⟩
      · exact ⟨first, one, same⟩
    obtain ⟨odd, oddMember, oddDiffers⟩ := odd
    have special : ¬ rolling.Ordinary odd :=
      fun isOne => oddDiffers (unique odd (List.mem_append_left extra oddMember) isOne)
    have clash : ∃ order, Arranges groups order ∧ rolling.Clashes (order ++ extra) := by
      rcases blank_or_lenient special with isBlank | isLenient
      · rw [isBlank] at oddMember
        exact exists_clash member oddMember isOrdinary.1 isOrdinary.1.symm
          rolling.lenient_ne_blank.symm
      · rw [isLenient] at oddMember
        exact exists_clash oddMember member rolling.lenient_ne_blank isOrdinary.2 isOrdinary.2
    obtain ⟨order, clashing, clashes⟩ := clash
    have shows := (constant order clashing).trans calm.symm
    have uniqueCalm : ∀ other ∈ blanks ++ rest ++ extra, rolling.Ordinary other → other = word := by
      intro other inside isOne
      exact unique other ((arranges.perm.append_right extra).mem_iff.mp inside) isOne
    rw [clashes.summary, summary_calm blank clean leads uniqueCalm ordinary
      (begins member isOrdinary.1) isOrdinary] at shows
    exact noClash ⟨word, List.mem_append_left extra member, isOrdinary, shows.symm⟩
  · push Not at some
    have nothing : extra = [] := by
      by_contra last
      exact notLast ⟨last, some⟩
    have both : rolling.lenient ∈ groups.flatten ∧ rolling.blank ∈ groups.flatten := by
      rcases blank_or_lenient (some first one) with firstIs | firstIs
      · rcases blank_or_lenient (some second other) with secondIs | secondIs
        · exact absurd (firstIs.trans secondIs.symm) distinct
        · exact ⟨secondIs ▸ other, firstIs ▸ one⟩
      · rcases blank_or_lenient (some second other) with secondIs | secondIs
        · exact ⟨firstIs ▸ one, secondIs ▸ other⟩
        · exact absurd (firstIs.trans secondIs.symm) distinct
    obtain ⟨order, clashing, clashes⟩ := @exists_clash α rolling extra groups _ _ both.1 both.2
      rolling.lenient_ne_blank rolling.lenient_ne_blank.symm rolling.lenient_ne_blank.symm
    have shows := (constant order clashing).trans calm.symm
    have special : ∀ word ∈ rest, ¬ rolling.Ordinary word := fun word member =>
      some word (arranges.perm.mem_iff.mp (List.mem_append_right blanks member))
    have filled : rest ≠ [] :=
      List.ne_nil_of_mem (begins both.1 rolling.lenient_ne_blank)
    rw [clashes.summary, nothing, List.append_nil,
      summary_lenient blank clean special filled] at shows
    exact differ shows.symm

end Necessary

/-- The summaries of going through grouped words any number of times are the same however
the groups are arranged, exactly if the words are settled or the groups tangled. -/
theorem arranged_iff {shown : α → β} {extra : List α} {groups : List (List α)}
    (ordinary : ∀ word ∈ extra, rolling.Ordinary word)
    (differ : shown rolling.lenient ≠ shown rolling.clash) {count : Nat} (some : 0 < count) :
    (∀ order, Arranges groups order →
      (rolling.summaries count (order ++ extra)).map shown =
        (rolling.summaries count (groups.flatten ++ extra)).map shown) ↔
      rolling.Settled shown extra groups.flatten ∨ rolling.Tangled groups := by
  constructor
  · intro same
    apply settled_or_tangled _ ordinary differ
    intro order arranges
    have all := same order arranges
    cases count with
    | zero => cases some
    | succ count =>
        rw [summaries, summaries, List.map_cons, List.map_cons, List.cons.injEq] at all
        exact all.1
  · intro either order arranges
    cases either with
    | inl settled => exact settled.summaries_eq ordinary arranges.perm count
    | inr tangled =>
        have given : Arranges groups groups.flatten :=
          ⟨groups, groups, .refl _, forall₂_perm_refl _, rfl⟩
        have clashes := (tangled.clashes arranges).append extra
        have again := (tangled.clashes given).append extra
        rw [clashes.summaries, again.summaries]

end Rolling

end Daq
