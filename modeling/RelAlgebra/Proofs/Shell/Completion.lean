import RelAlgebra.Proofs.Text.Encoding
import RelAlgebra.Shell.Completion

/-!
What completing a word gives.

The text before the cursor ends with a word, which reaches back to the last separator. The
completion looks for the word one byte after the start of that separator, so it finds the word
exactly when the separator takes one byte.
-/

namespace RelAlgebra.Shell

/-! ### The last separator -/

lemma lastSeparator?_plain {word : List Char} (h : ∀ c ∈ word, isSeparator c = false) :
    lastSeparator? word = none := by
  induction word with
  | nil => rfl
  | cons c cs ih =>
    obtain ⟨hc, hcs⟩ := List.forall_mem_cons.mp h
    simp [lastSeparator?, ih hcs, hc]

lemma lastSeparator?_append {before word : List Char} {c : Char} (hc : isSeparator c = true)
    (hword : ∀ d ∈ word, isSeparator d = false) :
    lastSeparator? (before ++ c :: word) = some (Text.width before) := by
  induction before with
  | nil => simp [lastSeparator?, lastSeparator?_plain hword, hc]
  | cons b bs ih => simp [lastSeparator?, ih]

/-- The text is `before` and then `word`, which is all that follows the last separator. -/
structure LastWord (before word : List Char) : Prop where
  plain : ∀ c ∈ word, isSeparator c = false
  separated : ∀ c ∈ before.getLast?, isSeparator c = true

lemma exists_lastWord (head : List Char) :
    ∃ before word, head = before ++ word ∧ LastWord before word := by
  induction head with
  | nil => exact ⟨[], [], rfl, by simp, by simp⟩
  | cons c cs ih =>
    obtain ⟨before, word, rfl, hplain, hseparated⟩ := ih
    cases before with
    | nil =>
      by_cases hc : isSeparator c = true
      · exact ⟨[c], word, rfl, hplain, by simpa using hc⟩
      · refine ⟨[], c :: word, rfl, ?_, by simp⟩
        exact List.forall_mem_cons.mpr ⟨by simpa using hc, hplain⟩
    | cons b bs => exact ⟨c :: b :: bs, word, rfl, hplain, by simpa using hseparated⟩

/-- The word is found when the separator before it takes one byte; the offset is inside the
separator when it takes more. -/
lemma splitAt?_wordStart {before word : List Char} (h : LastWord before word) :
    Text.splitAt? (wordStart (before ++ word)) (before ++ word) =
      if ∃ c ∈ before.getLast?, 1 < c.utf8Size then none else some (before, word) := by
  rcases List.eq_nil_or_concat before with rfl | ⟨init, c, rfl⟩
  · simp [wordStart, lastSeparator?_plain h.plain, Text.splitAt?]
  · have hc : isSeparator c = true := h.separated c (by simp)
    have hstart : wordStart (init ++ [c] ++ word) = Text.width init + 1 := by
      rw [List.append_assoc, List.singleton_append, wordStart, lastSeparator?_append hc h.plain]
    have hpos := c.utf8Size_pos
    rw [List.concat_eq_append] at *
    rw [hstart, List.append_assoc, List.singleton_append, Text.splitAt?_append, Text.splitAt?]
    by_cases hwide : 1 < c.utf8Size
    · simp [hwide, show ¬ c.utf8Size ≤ 0 + 1 by omega]
    · have hone : c.utf8Size = 1 := by omega
      simp [hone, Text.splitAt?]

/-! ### Candidates -/

/-- The word is the beginning of the keyword but for the case of letters. -/
def Begins (word : List Char) (keyword : String) : Prop :=
  word.map Char.toLower <+: keyword.toList.map Char.toLower

instance (word : List Char) (keyword : String) : Decidable (Begins word keyword) :=
  inferInstanceAs (Decidable (_ <+: _))

lemma map_toLower_keyword {k : String} (hk : k ∈ keywords) :
    k.toList.map Char.toLower = k.toList := by
  revert k
  decide

lemma candidates_eq (word : List Char) :
    candidates word = keywords.filter fun k => Begins word k := by
  refine List.filter_congr fun k hk => ?_
  rw [Bool.eq_iff_iff, List.isPrefixOf_iff_prefix, decide_eq_true_iff, Begins,
    map_toLower_keyword hk]

/-! ### Completions -/

/-- The text of a line up to a byte offset is `before` and then `word`, which is all that follows
the last separator. -/
structure WordBefore (line : String) (pos : ℕ) (before word : List Char) : Prop
    extends LastWord before word where
  isPrefix : before ++ word <+: line.toList
  width_eq : Text.width (before ++ word) = pos

lemma exists_wordBefore {line : String} {pos : ℕ} (h : String.Pos.Raw.IsValid line ⟨pos⟩) :
    ∃ before word, WordBefore line pos before word := by
  obtain ⟨⟨head, rest⟩, hcut⟩ := Text.exists_splitAt?_iff.mpr h
  obtain ⟨hline, hwidth⟩ := Text.splitAt?_eq_some_iff.mp hcut
  obtain ⟨before, word, rfl, hword⟩ := exists_lastWord head
  exact ⟨before, word, hword, ⟨rest, hline.symm⟩, hwidth⟩

lemma WordBefore.isValid {line : String} {pos : ℕ} {before word : List Char}
    (h : WordBefore line pos before word) : String.Pos.Raw.IsValid line ⟨pos⟩ := by
  obtain ⟨rest, hline⟩ := h.isPrefix
  exact Text.exists_splitAt?_iff.mp ⟨_, Text.splitAt?_eq_some_iff.mpr ⟨hline.symm, h.width_eq⟩⟩

lemma WordBefore.complete_eq {line : String} {pos : ℕ} {before word : List Char}
    (h : WordBefore line pos before word) :
    complete line pos =
      if ∃ c ∈ before.getLast?, 1 < c.utf8Size then none
      else some (if word.head? = some '\\' then ⟨Text.width before, candidates word⟩
        else ⟨pos, []⟩) := by
  obtain ⟨rest, hline⟩ := h.isPrefix
  have hcut : Text.splitAt? pos line.toList = some (before ++ word, rest) :=
    Text.splitAt?_eq_some_iff.mpr ⟨hline.symm, h.width_eq⟩
  have hword := splitAt?_wordStart h.toLastWord
  rw [complete, hcut]
  simp only [hword]
  by_cases hwide : ∃ c ∈ before.getLast?, 1 < c.utf8Size
  · simp only [if_pos hwide, Option.map_none]
  · rw [if_neg hwide] at hword
    have hstart := (Text.splitAt?_eq_some_iff.mp hword).2
    simp only [if_neg hwide, Option.map_some, ← hstart]
    split
    · simp
    · next hne =>
      rw [if_neg fun hhead => ?_]
      obtain ⟨cs, rfl⟩ := List.head?_eq_some_iff.mp hhead
      exact hne cs rfl

lemma WordBefore.eq_of_mem {line : String} {pos : ℕ} {before word : List Char} {r : Completion}
    (h : WordBefore line pos before word) (hr : r ∈ complete line pos) :
    r = if word.head? = some '\\' then ⟨Text.width before, candidates word⟩ else ⟨pos, []⟩ := by
  rw [h.complete_eq] at hr
  split at hr
  · cases hr
  · exact (Option.some.inj hr).symm

lemma complete_of_not_isValid {line : String} {pos : ℕ}
    (h : ¬ String.Pos.Raw.IsValid line ⟨pos⟩) : complete line pos = some ⟨pos, []⟩ := by
  have hcut : Text.splitAt? pos line.toList = none := by
    by_contra hsome
    exact h (Text.exists_splitAt?_iff.mp (Option.ne_none_iff_exists'.mp hsome))
  rw [complete, hcut]

lemma complete_eq_none_iff {line : String} {pos : ℕ} :
    complete line pos = none ↔ ∃ before word, WordBefore line pos before word ∧
      ∃ separator ∈ before.getLast?, 1 < separator.utf8Size := by
  constructor
  · intro hnone
    by_cases hvalid : String.Pos.Raw.IsValid line ⟨pos⟩
    · obtain ⟨before, word, hword⟩ := exists_wordBefore hvalid
      refine ⟨before, word, hword, ?_⟩
      by_contra hnarrow
      rw [hword.complete_eq, if_neg hnarrow] at hnone
      cases hnone
    · rw [complete_of_not_isValid hvalid] at hnone
      cases hnone
  · rintro ⟨before, word, hword, hwide⟩
    rw [hword.complete_eq, if_pos hwide]

lemma start_le_of_mem {line : String} {pos : ℕ} {r : Completion} (hr : r ∈ complete line pos) :
    r.start ≤ pos := by
  by_cases hvalid : String.Pos.Raw.IsValid line ⟨pos⟩
  · obtain ⟨before, word, hword⟩ := exists_wordBefore hvalid
    have hwidth := hword.width_eq
    rw [Text.width_append] at hwidth
    rw [hword.eq_of_mem hr]
    split
    · exact le_of_add_le_left hwidth.le
    · exact le_rfl
  · rw [complete_of_not_isValid hvalid] at hr
    cases hr
    exact le_rfl

/-- **A completion fails exactly at an offset between characters before which the last separator
takes more than one byte.** Otherwise it starts at or before the offset; if a word with a backslash
stands there, it starts where the word does and offers the keywords that the word begins, and in all
other cases it offers nothing. -/
theorem complete_last_word (line : String) (pos : ℕ) :
    (complete line pos = none ↔
      String.Pos.Raw.IsValid line ⟨pos⟩ ∧ ∃ before word, WordBefore line pos before word ∧
        ∃ separator ∈ before.getLast?, 1 < separator.utf8Size) ∧
    ∀ r ∈ complete line pos, r.start ≤ pos ∧
      (∀ before word, WordBefore line pos before word → word.head? = some '\\' →
        r.start = Text.width before ∧ r.candidates = keywords.filter fun k => Begins word k) ∧
      ((∀ before word, WordBefore line pos before word → word.head? ≠ some '\\') →
        r = ⟨pos, []⟩) := by
  refine ⟨?_, fun r hr => ⟨start_le_of_mem hr, fun before word hword hhead => ?_, fun hnone => ?_⟩⟩
  · rw [complete_eq_none_iff]
    refine ⟨?_, And.right⟩
    rintro ⟨before, word, hword, hwide⟩
    exact ⟨hword.isValid, before, word, hword, hwide⟩
  · rw [hword.eq_of_mem hr, if_pos hhead, ← candidates_eq]
    exact ⟨rfl, rfl⟩
  · by_cases hvalid : String.Pos.Raw.IsValid line ⟨pos⟩
    · obtain ⟨before, word, hword⟩ := exists_wordBefore hvalid
      rw [hword.eq_of_mem hr, if_neg (hnone before word hword)]
    · rw [complete_of_not_isValid hvalid] at hr
      exact (Option.some.inj hr).symm

-- The blank before the word takes one byte in the first line, and three in the second one.
example : complete "é \\JO" 6 = some ⟨3, ["\\join", "\\join_\x7b"]⟩ ∧
    complete "R\u3000\\jo" 7 = none := by
  decide +kernel

end RelAlgebra.Shell
