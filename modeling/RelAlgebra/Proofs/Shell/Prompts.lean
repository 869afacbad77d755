import RelAlgebra.Proofs.Shell.Dialogue
import RelAlgebra.Proofs.Shell.Incremental

/-!
The prompts of a shell.

A line that goes on with a statement is to be asked for by its number within that statement. A shell
counts the lines since nothing was left over for the last time. The two numbers are the same until a
line completes one statement and begins another after it: from there on the prompts count the lines
of the statements before, too.
-/

namespace RelAlgebra

namespace Statement

/-! ### What is left of a text -/

lemma suffix_of_cutFrom {n : Nesting} {cs text rest : List Char}
    (h : cutFrom n cs = some (text, rest)) : rest <:+ cs := by
  obtain ⟨rfl, -⟩ := cutFrom_eq_some_iff.mp h
  exact (List.suffix_cons ';' rest).trans (List.suffix_append text _)

lemma cutAll_suffix (cs : List Char) : (cutAll cs).2 <:+ cs := by
  induction cs using cutAll.induct with
  | case1 cs h =>
    rw [cutAll_of_none h]
  | case2 cs text rest h _ _ _ ih =>
    rw [cutAll_of_cut h]
    exact ih.trans (suffix_of_cutFrom h)

lemma cutAll_suffix_of_completed {as bs : List Char} (has : cut as = none)
    (h : cut (as ++ bs) ≠ none) : (cutAll (as ++ bs)).2 <:+ bs := by
  obtain ⟨⟨text, rest⟩, hcut⟩ := Option.ne_none_iff_exists'.mp h
  have happend : cut (as ++ bs) = _ := cutFrom_append has
  obtain ⟨⟨text', rest'⟩, hbs, he⟩ := Option.map_eq_some_iff.mp (happend.symm.trans hcut)
  cases he
  rw [cutAll_of_cut hcut]
  exact (cutAll_suffix rest).trans (suffix_of_cutFrom hbs)

lemma cutAll_blanks {bs : List Char} (h : Text.allBlank bs = true) (cs : List Char) :
    (cutAll (bs ++ cs)).2 = bs ++ (cutAll cs).2 ∨ (cutAll (bs ++ cs)).2 = (cutAll cs).2 := by
  have hblanks := cut_blanks h cs
  cases hcut : cut cs with
  | none =>
    rw [hcut] at hblanks
    exact .inl (by rw [cutAll_of_none hcut, cutAll_of_none hblanks])
  | some p =>
    rw [hcut] at hblanks
    exact .inr (by rw [cutAll_of_cut hcut, cutAll_of_cut hblanks])

lemma trimStart_append_of_not {as : List Char} (h : ¬ Text.allBlank as = true) (bs : List Char) :
    Text.trimStart (as ++ bs) = Text.trimStart as ++ bs := by
  have hsome : ¬ (as.dropWhile Text.isBlank).isEmpty = true := by
    rwa [List.isEmpty_iff, ← Text.trimStart, Text.trimStart_eq_nil_iff]
  rw [Text.trimStart, List.dropWhile_append, if_neg hsome]
  rfl

lemma count_trimStart_of_suffix {line v : List Char} (hline : '\n' ∉ line)
    (hv : v <:+ line ++ ['\n']) (hblank : ¬ Text.allBlank v = true) :
    (Text.trimStart v).count '\n' = 1 := by
  rcases List.suffix_concat_iff.mp hv with rfl | ⟨t, rfl, ht⟩
  · exact absurd rfl hblank
  · have hnewline : Text.allBlank ['\n'] = true := by decide
    have htblank : ¬ Text.allBlank t = true := by
      intro h
      exact hblank ((allBlank_append h).trans hnewline)
    have hcount : (Text.trimStart t).count '\n' = 0 := by
      refine List.count_eq_zero.mpr fun hmem => hline (ht.subset ?_)
      exact (List.dropWhile_suffix _).subset hmem
    rw [trimStart_append_of_not htblank, List.count_append, hcount]
    rfl

end Statement

namespace Shell

open Statement

/-! ### The lines of the unfinished statement -/

def Read.line? : Read → Option String
  | .line text => some text
  | _ => none

def linesOf (reads : List Read) : List String := reads.filterMap Read.line?

/-- What follows the last statement that the lines complete. -/
def unfinished (lines : List String) : List Char := (cutAll (joined (lines.map .line))).2

/-- After the lines no statement has begun. -/
def Idle (lines : List String) : Prop := Text.allBlank (unfinished lines) = true

instance (lines : List String) : Decidable (Idle lines) := inferInstanceAs (Decidable (_ = _))

/-- The number of lines that the unfinished statement has so far. -/
def linesBegun (lines : List String) : ℕ := (Text.trimStart (unfinished lines)).count '\n'

/-- The prompt for the line after the lines, by its number within the statement. -/
def numberedPrompt (lines : List String) : String :=
  if Idle lines then "ra> " else toString (linesBegun lines + 1) ++ "> "

def Completes (before : List String) (line : String) : Prop :=
  cut (unfinished before ++ (line.toList ++ ['\n'])) ≠ none

lemma unfinished_nil : unfinished [] = [] := congrArg Prod.snd (cutAll_of_none rfl)

lemma idle_nil : Idle [] := by
  rw [Idle, unfinished_nil]
  rfl

lemma unfinished_concat (lines : List String) (line : String) :
    unfinished (lines ++ [line]) = (cutAll (unfinished lines ++ (line.toList ++ ['\n']))).2 := by
  have hjoined : joined ((lines ++ [line]).map .line) =
      joined (lines.map .line) ++ (line.toList ++ ['\n']) := by
    simp [joined, Read.chars]
  rw [unfinished, hjoined, cutAll_append]
  rfl

lemma cut_unfinished (lines : List String) : cut (unfinished lines) = none := cut_cutAll _

lemma linesBegun_of_idle {lines : List String} (h : Idle lines) : linesBegun lines = 0 := by
  rw [linesBegun, Text.trimStart_eq_nil_iff.mpr h]
  rfl

lemma linesBegun_concat {lines : List String} {line : String} (hline : '\n' ∉ line.toList)
    (h : ¬ Idle (lines ++ [line])) :
    (Idle lines ∨ Completes lines line → linesBegun (lines ++ [line]) = 1) ∧
      (¬ Idle lines → ¬ Completes lines line →
        linesBegun (lines ++ [line]) = linesBegun lines + 1) := by
  have hend : (line.toList ++ ['\n']).count '\n' = 1 := by
    rw [List.count_append, List.count_eq_zero.mpr hline]
    rfl
  rw [Idle, unfinished_concat] at h
  unfold linesBegun
  rw [unfinished_concat]
  by_cases hcomplete : Completes lines line
  · -- what is left stands on the new line, whatever was unfinished before
    refine ⟨fun _ => ?_, fun _ hno => absurd hcomplete hno⟩
    exact count_trimStart_of_suffix hline
      (cutAll_suffix_of_completed (cut_unfinished lines) hcomplete) h
  · rw [cutAll_of_none (not_not.mp hcomplete)] at h ⊢
    constructor
    · intro hidle
      have hblank : Text.allBlank (unfinished lines) = true := hidle.resolve_right hcomplete
      rw [allBlank_append hblank] at h
      rw [trimStart_append hblank]
      exact count_trimStart_of_suffix hline List.suffix_rfl h
    · intro hidle _
      rw [trimStart_append_of_not hidle, List.count_append, hend]

/-! ### The lines since nothing was left over -/

/-- The number of lines since no statement had begun for the last time. -/
def sinceIdle (lines : List String) : ℕ :=
  (lines.inits.reverse.takeWhile fun before => ¬ Idle before).length

lemma sinceIdle_concat (lines : List String) (line : String) :
    sinceIdle (lines ++ [line]) =
      if Idle (lines ++ [line]) then 0 else sinceIdle lines + 1 := by
  have hinits : (lines ++ [line]).inits.reverse = (lines ++ [line]) :: lines.inits.reverse := by
    simp
  rw [sinceIdle, hinits, List.takeWhile_cons]
  by_cases h : Idle (lines ++ [line]) <;> simp [h, sinceIdle]

lemma sinceIdle_eq_zero_iff {lines : List String} : sinceIdle lines = 0 ↔ Idle lines := by
  induction lines using List.reverseRecOn with
  | nil => simp [sinceIdle, idle_nil]
  | append_singleton lines line _ =>
    rw [sinceIdle_concat]
    by_cases h : Idle (lines ++ [line]) <;> simp [h]

/-- A line completed a statement that had begun on a line before it, and ever since some statement
has been unfinished. -/
def Strayed (lines : List String) : Prop :=
  ∃ before line after, lines = before ++ line :: after ∧ Completes before line ∧
    ∀ part, before <+: part → part <+: lines → ¬ Idle part

lemma strayed_concat {lines : List String} {line : String} :
    Strayed (lines ++ [line]) ↔
      ¬ Idle (lines ++ [line]) ∧ ¬ Idle lines ∧ (Completes lines line ∨ Strayed lines) := by
  constructor
  · rintro ⟨before, l, after, heq, hcomplete, hbusy⟩
    have hbefore : before <+: lines ++ [line] := ⟨l :: after, heq.symm⟩
    refine ⟨hbusy _ hbefore List.prefix_rfl, ?_⟩
    -- the line that completed a statement is the last one, or one of those before it
    rcases List.eq_nil_or_concat' after with rfl | ⟨after, l', rfl⟩
    · obtain ⟨rfl, hl⟩ := List.append_inj' heq rfl
      cases hl
      exact ⟨hbusy _ List.prefix_rfl hbefore, .inl hcomplete⟩
    · rw [← List.cons_append, ← List.append_assoc] at heq
      obtain ⟨rfl, hl⟩ := List.append_inj' heq rfl
      cases hl
      have hpart : before ++ l :: after <+: before ++ l :: after ++ [line] := List.prefix_append _ _
      exact ⟨hbusy _ (List.prefix_append _ _) hpart, .inr ⟨before, l, after, rfl, hcomplete,
        fun part h1 h2 => hbusy part h1 (h2.trans hpart)⟩⟩
  · rintro ⟨hidle', hidle, hcomplete | ⟨before, l, after, rfl, hcomplete, hbusy⟩⟩
    · refine ⟨lines, line, [], rfl, hcomplete, fun part h1 h2 => ?_⟩
      rcases List.prefix_concat_iff.mp h2 with rfl | h2
      · exact hidle'
      · rwa [h2.eq_of_length_le h1.length_le]
    · refine ⟨before, l, after ++ [line], by simp, hcomplete, fun part h1 h2 => ?_⟩
      rcases List.prefix_concat_iff.mp h2 with rfl | h2
      · exact hidle'
      · exact hbusy part h1 h2

lemma Strayed.not_idle {lines : List String} (h : Strayed lines) : ¬ Idle lines := by
  obtain ⟨before, line, after, rfl, -, hbusy⟩ := h
  exact hbusy _ (List.prefix_append _ _) List.prefix_rfl

/-- The count since nothing was left over is the number within the statement, unless the lines have
strayed. -/
lemma linesBegun_eq_iff {lines : List String} (hlines : ∀ line ∈ lines, '\n' ∉ line.toList) :
    linesBegun lines ≤ sinceIdle lines ∧
      (linesBegun lines = sinceIdle lines ↔ ¬ Strayed lines) := by
  -- both counts are told by the last line, so the induction takes lines off the end
  induction lines using List.reverseRecOn with
  | nil =>
    rw [linesBegun_of_idle idle_nil, sinceIdle_eq_zero_iff.mpr idle_nil]
    exact ⟨le_rfl, fun _ h => h.not_idle idle_nil, fun _ => rfl⟩
  | append_singleton lines line ih =>
    obtain ⟨hle, hiff⟩ := ih fun l hl => hlines l (by simp [hl])
    rw [sinceIdle_concat, strayed_concat]
    by_cases h : Idle (lines ++ [line])
    · rw [linesBegun_of_idle h, if_pos h]
      simp [h]
    · obtain ⟨hbegins, hgoes⟩ := linesBegun_concat (hlines line (by simp)) h
      rw [if_neg h]
      by_cases hidle : Idle lines
      · rw [hbegins (.inl hidle), sinceIdle_eq_zero_iff.mpr hidle]
        simp [hidle]
      · by_cases hcomplete : Completes lines line
        · -- here the shell goes on counting and the statement begins anew
          have hpos : sinceIdle lines ≠ 0 := fun hzero => hidle (sinceIdle_eq_zero_iff.mp hzero)
          rw [hbegins (.inr hcomplete)]
          refine ⟨by omega, fun heq => absurd heq (by omega), fun hno => ?_⟩
          exact absurd ⟨h, hidle, .inl hcomplete⟩ hno
        · rw [hgoes hidle hcomplete]
          simp [h, hidle, hcomplete, hle, hiff]

/-! ### The shell -/

variable {σ : Type} [Database σ]

/-- What a shell keeps after some lines. -/
structure Follows (s : Shell σ) (lines : List String) : Prop where
  pending : ∃ blanks, Text.allBlank blanks = true ∧ unfinished lines = blanks ++ s.pending
  number : s.lineNumber = sinceIdle lines + 1

namespace Follows

variable {s t : Shell σ} {lines : List String}

omit [Database σ] in
lemma congr (h : s.Follows lines) (hp : t.pending = s.pending)
    (hn : t.lineNumber = s.lineNumber) : t.Follows lines :=
  ⟨hp ▸ h.pending, hn ▸ h.number⟩

lemma take (h : s.Follows lines) {line : String} (hr : (s.take line).isReading = true) :
    (s.take line).Follows (lines ++ [line]) := by
  obtain ⟨blanks, hblanks, hpending⟩ := h.pending
  have hdialogue := dialogue_take hr
  rw [List.append_assoc] at hdialogue
  have hleft : unfinished (lines ++ [line]) =
      (cutAll (blanks ++ (s.pending ++ (line.toList ++ ['\n'])))).2 := by
    rw [unfinished_concat, hpending, List.append_assoc]
  generalize s.pending ++ (line.toList ++ ['\n']) = whole at hdialogue hleft
  have hidle : Idle (lines ++ [line]) ↔ Text.allBlank (cutAll whole).2 = true := by
    rw [Idle, hleft, (pieces_blanks hblanks whole).2]
  constructor
  · have hp : (s.take line).pending = kept (cutAll whole).2 := congrArg (·.1) hdialogue
    rw [hp, kept]
    split
    · next hblank => exact ⟨_, hidle.mpr hblank, (List.append_nil _).symm⟩
    · rcases cutAll_blanks hblanks whole with hstay | hgone
      · exact ⟨blanks, hblanks, hleft.trans hstay⟩
      · exact ⟨[], rfl, hleft.trans hgone⟩
  · have hn : (s.take line).lineNumber =
        if Text.allBlank (cutAll whole).2 then 1 else s.lineNumber + 1 :=
      congrArg (·.2.1) hdialogue
    rw [hn, sinceIdle_concat, h.number]
    simp only [hidle]
    split <;> rfl

lemma read (h : s.Follows lines) {r : Read} (hr : (s.read r).isReading = true) :
    (s.read r).Follows (lines ++ linesOf [r]) := by
  obtain ⟨m, hm, hread | ⟨hended, -⟩⟩ := read_cases s r
  · have hfollows : m.Follows lines := h.congr (congrArg (·.1) hm) (congrArg (·.2.1) hm)
    rw [hread] at hr ⊢
    cases r with
    | line text => exact hfollows.take hr
    | endOfInput => exact absurd hr (by simp [meet, isReading_finish m])
    | failed e =>
      have hsame := dialogue_eq_iff.mp (dialogue_recover m e)
      rw [show linesOf [.failed e] = [] from rfl, List.append_nil]
      exact hfollows.congr hsame.1 hsame.2.1
  · exact absurd (hr.symm.trans hended) (by decide)

lemma asking {reads : List Read} (h : s.Follows lines) {i : ℕ}
    (ht : (s.asking reads)[i]? = some t) : t.Follows (lines ++ linesOf (reads.take i)) := by
  induction reads generalizing s lines i with
  | nil =>
    rw [Shell.asking] at ht
    split at ht
    · obtain ⟨rfl, rfl⟩ : i = 0 ∧ s = t := by
        simpa [List.getElem?_singleton] using ht
      simpa [linesOf] using h
    · cases ht
  | cons r reads ih =>
    rw [Shell.asking] at ht
    split at ht
    · cases i with
      | zero =>
        cases ht
        simpa [linesOf] using h
      | succ i =>
        rw [List.getElem?_cons_succ] at ht
        cases hr : (s.read r).isReading with
        | true =>
          have := ih (h.read hr) ht
          rw [List.append_assoc, linesOf, linesOf, ← List.filterMap_append] at this
          exact this
        | false =>
          rw [asking_of_ended hr] at ht
          cases ht
    · cases ht

omit [Database σ] in
lemma prompt_eq (h : s.Follows lines) :
    s.prompt = if Idle lines then "ra> " else toString (sinceIdle lines + 1) ++ "> " := by
  simp only [Shell.prompt, h.number, Nat.add_eq_right, sinceIdle_eq_zero_iff]

end Follows

/-- **A prompt counts the lines since nothing was left over.** It is the number of the line within
its statement unless a line completed one statement and began the next in between. -/
theorem run_prompts (session : Session σ) (console : Console) (verbose showsPrompt : Bool)
    (reads : List Read) (hlines : ∀ line ∈ linesOf reads, '\n' ∉ line.toList) :
    let s : Shell σ := { session, console, verbose, showsPrompt }
    (s.run reads).prompts.toList = (s.asking reads).map prompt ∧
      ∀ i t, (s.asking reads)[i]? = some t →
        let lines := linesOf (reads.take i)
        Text.trimStart t.pending = Text.trimStart (unfinished lines) ∧
          t.prompt = (if Idle lines then "ra> " else toString (sinceIdle lines + 1) ++ "> ") ∧
          linesBegun lines ≤ sinceIdle lines ∧
          (t.prompt = numberedPrompt lines ↔ ¬ Strayed lines) := by
  intro s
  refine ⟨prompts_run s reads, ?_⟩
  intro i t ht lines
  have hstart : s.Follows [] :=
    ⟨⟨[], rfl, unfinished_nil⟩, by rw [sinceIdle_eq_zero_iff.mpr idle_nil]⟩
  have hfollows : t.Follows lines := hstart.asking ht
  have hplain : ∀ line ∈ lines, '\n' ∉ line.toList := fun line hline =>
    hlines line (((List.take_sublist i reads).filterMap _).subset hline)
  obtain ⟨hle, hiff⟩ := linesBegun_eq_iff hplain
  obtain ⟨blanks, hblanks, hpending⟩ := hfollows.pending
  refine ⟨by rw [hpending, trimStart_append hblanks], hfollows.prompt_eq, hle, ?_⟩
  rw [hfollows.prompt_eq, numberedPrompt]
  split
  · next hidle => exact ⟨fun _ h => h.not_idle hidle, fun _ => rfl⟩
  · rw [← hiff]
    constructor
    · intro heq
      have hnumber := Nat.repr_injective ((String.append_left_inj _).mp heq)
      omega
    · intro heq
      rw [heq]

/-- A line that completes a statement and begins the next one. -/
def crossing : List Read := [.line "R", .line "; S", .line ";"]

theorem crossing_prompts :
    let s : Shell Scripted := { session := { conn := { db := {} } } }
    (∀ line ∈ linesOf crossing, '\n' ∉ line.toList) ∧
      (∃ t, (s.asking crossing)[1]? = some t ∧ t.prompt = "2> ") ∧ ¬ Strayed ["R"] ∧
      (∃ t, (s.asking crossing)[2]? = some t ∧ t.prompt = "3> ") ∧ Strayed ["R", "; S"] := by
  intro s
  have hlines : ∀ line ∈ linesOf crossing, '\n' ∉ line.toList := by decide +kernel
  have hprompts : (s.run crossing).prompts.toList = ["ra> ", "2> ", "3> ", "ra> "] := by
    decide +kernel
  obtain ⟨hrun, hall⟩ :=
    run_prompts ({ conn := { db := {} } } : Session Scripted) {} false false crossing hlines
  have hasked (i : ℕ) {p : String} (hp : ["ra> ", "2> ", "3> ", "ra> "][i]? = some p) :
      ∃ t, (s.asking crossing)[i]? = some t ∧ t.prompt = p := by
    rw [← hprompts, hrun, List.getElem?_map] at hp
    exact Option.map_eq_some_iff.mp hp
  obtain ⟨t₁, ht₁, hp₁⟩ := hasked 1 rfl
  obtain ⟨t₂, ht₂, hp₂⟩ := hasked 2 rfl
  obtain ⟨-, -, -, hiff₁⟩ := hall 1 t₁ ht₁
  obtain ⟨-, -, -, hiff₂⟩ := hall 2 t₂ ht₂
  refine ⟨hlines, ⟨t₁, ht₁, hp₁⟩, hiff₁.mp ?_, ⟨t₂, ht₂, hp₂⟩, not_not.mp (mt hiff₂.mpr ?_)⟩
  · rw [hp₁]
    decide +kernel
  · rw [hp₂]
    decide +kernel

/-- The third line is the second one of its statement. -/
theorem crossing_misnumbered :
    let s : Shell Scripted := { session := { conn := { db := {} } } }
    (s.run crossing).prompts.toList = ["ra> ", "2> ", "3> ", "ra> "] ∧
      (crossing.inits.map fun before => numberedPrompt (linesOf before)) =
        ["ra> ", "2> ", "2> ", "ra> "] := by
  decide +kernel

end Shell

end RelAlgebra
