import RelAlgebra.Proofs.Shell.Acts

/-!
The dialogue of a shell with its source.

Of what it is given a shell keeps the text that is pending and the number of the next line, and it
keeps the prompts that it gave. Writing and answering change none of them, and each read adds one
prompt.
-/

namespace RelAlgebra.Shell

open Statement

variable {σ : Type} [Database σ]

/-! ### What is kept -/

/-- What a shell keeps of the lines it was given and asks for. -/
def dialogue (s : Shell σ) : List Char × ℕ × Array String := (s.pending, s.lineNumber, s.prompts)

section

omit [Database σ]

lemma dialogue_eq_iff {a b : Shell σ} : a.dialogue = b.dialogue ↔
    a.pending = b.pending ∧ a.lineNumber = b.lineNumber ∧ a.prompts = b.prompts := by
  simp [dialogue]

lemma dialogue_emit (s : Shell σ) (ps : List Piece) : (s.emit ps).dialogue = s.dialogue := by
  unfold emit
  split <;> rfl

lemma dialogue_bye (s : Shell σ) (ps : List Piece) : (s.bye ps).dialogue = s.dialogue := by
  rw [bye, ← dialogue_emit s (ps ++ outPieces byeTexts)]
  unfold close
  split <;> rfl

lemma dialogue_recover (s : Shell σ) (e : Error) : (s.recover e).dialogue = s.dialogue := by
  unfold recover
  split
  · rfl
  · exact dialogue_emit _ _

lemma dialogue_finish (s : Shell σ) : s.finish.dialogue = s.dialogue := by
  unfold finish
  split <;> exact dialogue_bye _ _

end

lemma dialogue_answer (s : Shell σ) (text : List Char) :
    (s.answer text).dialogue = s.dialogue := by
  simp only [answer]
  split
  · exact dialogue_bye _ _
  · exact dialogue_emit _ _

lemma dialogue_answerAll (s : Shell σ) (texts : List (List Char)) :
    (s.answerAll texts).dialogue = s.dialogue := by
  induction texts generalizing s with
  | nil => rfl
  | cons text texts ih =>
    rw [answerAll]
    split
    · exact ih s
    · dsimp only
      split
      · rw [ih, dialogue_answer]
      · exact dialogue_answer s text

lemma dialogue_take_of_ended {s : Shell σ} {line : String} (h : (s.take line).isReading = false) :
    (s.take line).dialogue = s.dialogue := by
  have hall := dialogue_answerAll s (cutAll (s.pending ++ line.toList ++ ['\n'])).1
  unfold take at h ⊢
  dsimp only at h ⊢
  split at h
  · next hgo =>
    rw [isReading_of_core (core_settle _)] at h
    exact absurd (hgo.symm.trans h) (by decide)
  · next hend => rwa [if_neg hend]

lemma dialogue_take {s : Shell σ} {line : String} (h : (s.take line).isReading = true) :
    (s.take line).dialogue =
      let rest := (cutAll (s.pending ++ line.toList ++ ['\n'])).2
      (kept rest, if Text.allBlank rest then 1 else s.lineNumber + 1, s.prompts) := by
  have hall := dialogue_answerAll s (cutAll (s.pending ++ line.toList ++ ['\n'])).1
  obtain ⟨-, hnumber, hprompts⟩ := dialogue_eq_iff.mp hall
  unfold take at h ⊢
  dsimp only at h ⊢
  split at h
  · next hgo =>
    rw [if_pos hgo, settle, kept, ← hnumber, ← hprompts]
    dsimp only
    split <;> rfl
  · next hend => exact absurd h hend

/-! ### Reads -/

lemma prompts_take (s : Shell σ) (line : String) : (s.take line).prompts = s.prompts := by
  cases h : (s.take line).isReading with
  | true => exact congrArg (·.2.2) (dialogue_take h)
  | false => exact congrArg (·.2.2) (dialogue_take_of_ended h)

lemma prompts_meet (s : Shell σ) (r : Read) : (s.meet r).prompts = s.prompts := by
  cases r with
  | line text => exact prompts_take s text
  | endOfInput => exact congrArg (·.2.2) (dialogue_finish s)
  | failed e => exact congrArg (·.2.2) (dialogue_recover s e)

omit [Database σ] in
lemma dialogue_ask (s : Shell σ) :
    s.ask.dialogue = (s.pending, s.lineNumber, s.prompts.push s.prompt) := by
  unfold ask
  dsimp only
  split
  · split <;> rfl
  · rfl

lemma echo_cases (prompt : String) (transcript : Sink) (r : Read) :
    (echo prompt transcript r).1 = r ∨ ∃ f, (echo prompt transcript r).1 = .failed (.io f) := by
  cases r with
  | line text =>
    unfold echo
    dsimp only
    split
    · exact .inl rfl
    · next f _ _ => exact .inr ⟨f, rfl⟩
  | endOfInput => exact .inl rfl
  | failed e => exact .inl rfl

omit [Database σ] in
lemma echoLine_cases (s : Shell σ) (r : Read) :
    (s.echoLine r).2.dialogue = s.dialogue ∧
      ((s.echoLine r).1 = r ∨ ∃ f, (s.echoLine r).1 = .failed (.io f)) := by
  unfold echoLine
  split
  · exact ⟨rfl, .inl rfl⟩
  · next transcript _ => exact ⟨rfl, echo_cases s.prompt transcript r⟩

lemma read_cases (s : Shell σ) (r : Read) :
    ∃ m : Shell σ, m.dialogue = (s.pending, s.lineNumber, s.prompts.push s.prompt) ∧
      (s.read r = m.meet r ∨ (s.read r).isReading = false ∧ (s.read r).dialogue = m.dialogue) := by
  cases hask : s.ask.isReading with
  | false =>
    refine ⟨s.ask, dialogue_ask s, .inr ?_⟩
    simp [read, hask]
  | true =>
    obtain ⟨hm, hcame⟩ := echoLine_cases s.ask r
    refine ⟨(s.ask.echoLine r).2, hm.trans (dialogue_ask s), ?_⟩
    simp only [read, hask, if_true, heed]
    generalize s.ask.echoLine r = p at hcame
    obtain ⟨r', m⟩ := p
    rcases hcame with rfl | ⟨f, rfl⟩
    · left
      cases r' <;> rfl
    · exact .inr ⟨rfl, dialogue_recover m (.io f)⟩

omit [Database σ] in
lemma isReading_finish (s : Shell σ) : s.finish.isReading = false := by
  unfold finish
  split <;> exact isReading_bye _ _

lemma prompts_read (s : Shell σ) (r : Read) : (s.read r).prompts = s.prompts.push s.prompt := by
  obtain ⟨m, hm, hread | ⟨-, hdialogue⟩⟩ := read_cases s r
  · rw [hread, prompts_meet]
    exact congrArg (·.2.2) hm
  · exact congrArg (·.2.2) (hdialogue.trans hm)

/-- The shells that ask for a line in the course of a run, one for each read. -/
def asking (s : Shell σ) : List Read → List (Shell σ)
  | [] => if s.isReading then [s] else []
  | r :: reads => if s.isReading then s :: (s.read r).asking reads else []

lemma asking_of_ended {s : Shell σ} (h : s.isReading = false) (reads : List Read) :
    s.asking reads = [] := by
  cases reads <;> simp [asking, h]

lemma prompts_run (s : Shell σ) (reads : List Read) :
    (s.run reads).prompts.toList = s.prompts.toList ++ (s.asking reads).map prompt := by
  induction reads generalizing s with
  | nil =>
    rw [run, asking]
    split
    · rw [prompts_read, Array.toList_push]
      rfl
    · simp
  | cons r reads ih =>
    rw [run, asking]
    split
    · rw [ih, prompts_read, Array.toList_push, List.append_assoc]
      rfl
    · simp

end RelAlgebra.Shell
