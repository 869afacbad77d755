import RelAlgebra.Proofs.Shell.Incremental

/-!
How a shell ends.

A shell goes on after every read but three: the end of the input, a failure to read, and a line that
completes the command to quit. A failure to read stops it as it stands. After the other two it takes
its leave. Neither a fault in a statement nor anything that a database answers ends it.
-/

namespace RelAlgebra.Shell

open Statement

/-- None of the reads ends a shell that holds some text. -/
def GoesOn (pending : List Char) (reads : List Read) : Prop :=
  (∀ r ∈ reads, r.Passing) ∧ ¬ ∃ text ∈ pieces (pending ++ joined reads), Quits text

/-- Reading fails after some reads, and the shell went on till then. -/
def BreaksOff (reads before : List Read) (f : IoFault) : Prop :=
  GoesOn [] before ∧ ∃ after, reads = before ++ .failed (.io f) :: after

lemma passing_failed {e : Error} : (Read.failed e).Passing ↔ ¬ ∃ f, e = .io f := by
  cases e <;> simp [Read.Passing, Error.isFatal]

lemma goesOn_failed (pending : List Char) (e : Error) (reads : List Read) :
    GoesOn pending (.failed e :: reads) ↔ (Read.failed e).Passing ∧ GoesOn pending reads := by
  rw [GoesOn, List.forall_mem_cons, and_assoc]
  rfl

lemma goesOn_line (pending : List Char) (line : String) (reads : List Read) :
    GoesOn pending (.line line :: reads) ↔
      (¬ ∃ text ∈ pieces (pending ++ line.toList ++ ['\n']), Quits text) ∧
        GoesOn (kept (cutAll (pending ++ line.toList ++ ['\n'])).2) reads := by
  rw [GoesOn, joined_line]
  generalize pending ++ line.toList ++ ['\n'] = whole
  -- what is kept may lack blanks, which no command to quit depends on
  have hkept : (∃ text ∈ pieces (kept (cutAll whole).2 ++ joined reads), Quits text) ↔
      ∃ text ∈ pieces ((cutAll whole).2 ++ joined reads), Quits text := by
    rw [← exists_quits_trimStart, (pieces_kept _ _).1, exists_quits_trimStart]
  rw [GoesOn, hkept, pieces_append]
  simp only [List.forall_mem_cons, List.mem_append, or_and_right, exists_or, not_or]
  constructor
  · rintro ⟨⟨-, hpassing⟩, hfirst, hquits⟩
    exact ⟨hfirst, hpassing, hquits⟩
  · rintro ⟨hfirst, hpassing, hquits⟩
    exact ⟨⟨trivial, hpassing⟩, hfirst, hquits⟩

variable {σ : Type} [Database σ] {s : Shell σ}

/-! ### Leaving -/

/-- The shell has taken its leave, with the last lines of its output. -/
structure Departed (s : Shell σ) : Prop where
  phase : s.phase = .ended
  bye : Text.bytes "Bye!\n\n" <:+ s.console.out.held.toList

omit [Database σ] in
lemma Free.departed_bye (h : s.Free) (hr : s.isReading = true) (ps : List Piece) :
    (s.bye ps).Departed := by
  obtain ⟨c, hemit, -, hsink, -⟩ := h.emit_eq (ps ++ outPieces byeTexts)
  have hclose : s.bye ps = { s with console := c, phase := .ended } := by
    rw [Shell.bye, hemit]
    exact if_pos hr
  have hlast : bytesOn .out (outPieces byeTexts) = Text.bytes "Bye!\n\n" := by decide +kernel
  have hout : c.out = s.console.out.push (bytesOn .out (ps ++ outPieces byeTexts)) := hsink .out
  rw [hclose]
  refine ⟨rfl, ?_⟩
  rw [hout, Sink.toList_held_push, bytesOn_append, hlast, ← List.append_assoc]
  exact List.suffix_append _ _

lemma Free.departed_answer (h : s.Free) (hr : s.isReading = true) {text : List Char}
    (hquits : Quits text) : (s.answer text).Departed := by
  simp only [Shell.answer, (quit_respond s.verbose text s.session).mpr hquits, if_true]
  refine (h.withSession _).departed_bye ?_ _
  exact hr

lemma Free.departed_answerAll (h : s.Free) (hr : s.isReading = true) (texts : List (List Char)) :
    (s.answerAll texts).isReading = true ∨ (s.answerAll texts).Departed := by
  induction texts generalizing s with
  | nil => exact .inl hr
  | cons text texts ih =>
    rw [Shell.answerAll]
    split
    · exact ih h hr
    · dsimp only
      split
      · next hgo => exact ih (lasting_unlimited.answer h text) hgo
      · next hend =>
        rw [h.isReading_answer hr, not_not] at hend
        exact .inr (h.departed_answer hr hend)

lemma Free.departed_take (h : s.Free) (hr : s.isReading = true) (line : String) :
    (s.take line).isReading = true ∨ (s.take line).Departed := by
  have hall := h.departed_answerAll hr (cutAll (s.pending ++ line.toList ++ ['\n'])).1
  simp only [Shell.take]
  split
  · next hgo =>
    left
    unfold settle
    split <;> exact hgo
  · next hend => exact .inr (hall.resolve_left hend)

omit [Database σ] in
lemma Free.departed_finish (h : s.Free) (hr : s.isReading = true) : s.finish.Departed := by
  unfold Shell.finish
  split
  · exact h.departed_bye hr []
  · refine (h.withSession _).departed_bye ?_ _
    exact hr

/-! ### One read -/

lemma read_io (hsilent : s.showsPrompt = false) (hr : s.isReading = true) (f : IoFault) :
    s.read (.failed (.io f)) =
      { s with prompts := s.prompts.push s.prompt, phase := .failed (.io f) } := by
  have hecho (t : Shell σ) (e : Error) : t.echoLine (.failed e) = (.failed e, t) := by
    unfold echoLine
    split
    · rfl
    · next transcript ht =>
      simp only [echo, ← ht]
  have hask : s.ask.isReading = true := by
    rw [ask_of_silent hsilent]
    exact hr
  rw [Shell.read, if_pos hask, heed, hecho]
  simp only [recover, Error.isFatal, if_true, ask_of_silent hsilent]

lemma isReading_read_of_not (hsilent : s.showsPrompt = false) (hr : s.isReading = false)
    (r : Read) : (s.read r).isReading = false := by
  have hask : s.ask.isReading = false := by
    rw [ask_of_silent hsilent]
    exact hr
  simp only [Shell.read, hask, Bool.false_eq_true, if_false]

lemma Free.read_outcome (h : s.Free) (hr : s.isReading = true) (r : Read) :
    (s.read r).isReading = true ∨ (s.read r).Departed ∨ ∃ f, r = .failed (.io f) := by
  obtain ⟨t, ht, hcore, -, heq⟩ := h.read_eq hr r
  have htr : t.isReading = true := (isReading_of_core hcore).trans hr
  rw [heq]
  cases r with
  | line text => exact (ht.departed_take htr text).imp_right .inl
  | endOfInput => exact .inr (.inl (ht.departed_finish htr))
  | failed e =>
    by_cases hio : ∃ f, e = .io f
    · obtain ⟨f, rfl⟩ := hio
      exact .inr (.inr ⟨f, rfl⟩)
    · exact .inl ((ht.isReading_recover (passing_failed.mpr hio)).trans htr)

/-- The shell takes lines, has no limit, and holds the start of a statement. -/
structure Ready (s : Shell σ) : Prop where
  free : s.Free
  reading : s.isReading = true
  uncut : cut s.pending = none

/-- A read ends the shell or leaves it with what follows the last statement, on which the rest of
the input depends. -/
lemma Ready.read (h : s.Ready) (r : Read) :
    ((s.read r).isReading = true → (s.read r).Ready) ∧
      ∀ reads, GoesOn s.pending (r :: reads) ↔
        (s.read r).isReading = true ∧ GoesOn (s.read r).pending reads := by
  obtain ⟨t, ht, hcore, hpending, heq⟩ := h.free.read_eq h.reading r
  have htr : t.isReading = true := (isReading_of_core hcore).trans h.reading
  have hfree : (s.read r).Free := lasting_unlimited.read h.free r
  rw [heq] at hfree ⊢
  cases r with
  | endOfInput =>
    have hend : t.finish.isReading = false := by
      simp [isReading, (ht.departed_finish htr).phase]
    simp [Shell.meet, hend, GoesOn, Read.Passing]
  | failed e =>
    -- of all errors only a failure to read ends the shell
    by_cases hio : ∃ f, e = .io f
    · obtain ⟨f, rfl⟩ := hio
      simp [Shell.meet, Shell.recover, isReading, goesOn_failed, Read.Passing, Error.isFatal]
    · have hpassing := passing_failed.mpr hio
      have hgo : (t.recover e).isReading = true := (ht.isReading_recover hpassing).trans htr
      have hsame : (t.recover e).pending = s.pending :=
        (ht.pending_recover hpassing).trans hpending
      refine ⟨fun hreading => ⟨hfree, hreading, ?_⟩, fun reads => ?_⟩
      · rw [Shell.meet, hsame]
        exact h.uncut
      · rw [goesOn_failed, Shell.meet, hsame]
        exact and_congr_left' (iff_of_true hpassing hgo)
  | line line =>
    have hgo := ht.isReading_take htr line
    have hrest (hreading : (t.take line).isReading = true) := pending_take hreading
    rw [hpending] at hgo hrest
    refine ⟨fun hreading => ⟨hfree, hreading, ?_⟩, fun reads => ?_⟩
    · rw [Shell.meet, hrest hreading]
      exact cut_kept _
    · rw [goesOn_line, ← hgo]
      exact and_congr_right fun hreading => by rw [Shell.meet, hrest hreading]

/-! ### Runs -/

lemma run_of_not_reading (hr : s.isReading = false) (reads : List Read) : s.run reads = s := by
  cases reads <;> simp [Shell.run, hr]

lemma Free.foldl_read (h : s.Free) (reads : List Read) : (reads.foldl Shell.read s).Free := by
  induction reads generalizing s with
  | nil => exact h
  | cons r reads ih => exact ih (lasting_unlimited.read h r)

lemma Free.reading_of_foldl_read (h : s.Free) {reads : List Read}
    (hreads : (reads.foldl Shell.read s).isReading = true) : s.isReading = true := by
  induction reads generalizing s with
  | nil => exact hreads
  | cons r reads ih =>
    have hread := ih (lasting_unlimited.read h r) hreads
    by_contra hr
    rw [isReading_read_of_not h.silent (by simpa using hr)] at hread
    cases hread

lemma Ready.isReading_foldl_read (h : s.Ready) (reads : List Read) :
    (reads.foldl Shell.read s).isReading = true ↔ GoesOn s.pending reads := by
  induction reads generalizing s with
  | nil => simp [h.reading, GoesOn, joined, pieces_of_none h.uncut]
  | cons r reads ih =>
    obtain ⟨hready, hcons⟩ := h.read r
    rw [hcons, List.foldl_cons]
    constructor
    · intro hreading
      have hread := Free.reading_of_foldl_read (lasting_unlimited.read h.free r) hreading
      exact ⟨hread, (ih (hready hread)).mp hreading⟩
    · rintro ⟨hread, hrest⟩
      exact (ih (hready hread)).mpr hrest

lemma Free.run_append (h : s.Free) {before : List Read}
    (hbefore : (before.foldl Shell.read s).isReading = true) (after : List Read) :
    s.run (before ++ after) = (before.foldl Shell.read s).run after := by
  induction before generalizing s with
  | nil => rfl
  | cons r before ih =>
    rw [List.cons_append, Shell.run, if_pos (h.reading_of_foldl_read hbefore)]
    exact ih (lasting_unlimited.read h r) hbefore

lemma Free.run_outcome (h : s.Free) (hr : s.isReading = true) (reads : List Read) :
    (s.run reads).Departed ∨ ∃ before f after, reads = before ++ .failed (.io f) :: after ∧
      (before.foldl Shell.read s).isReading = true := by
  induction reads generalizing s with
  | nil =>
    left
    rw [Shell.run, if_pos hr]
    obtain ⟨t, ht, hcore, -, heq⟩ := h.read_eq hr .endOfInput
    rw [heq]
    exact ht.departed_finish ((isReading_of_core hcore).trans hr)
  | cons r reads ih =>
    rw [Shell.run, if_pos hr]
    rcases h.read_outcome hr r with hgo | hdeparted | ⟨f, rfl⟩
    · rcases ih (lasting_unlimited.read h r) hgo with hend | ⟨before, f, after, rfl, hbefore⟩
      · exact .inl hend
      · exact .inr ⟨r :: before, f, after, rfl, hbefore⟩
    · left
      rwa [run_of_not_reading (by simp [isReading, hdeparted.phase])]
    · exact .inr ⟨[], f, reads, rfl, hr⟩

/-- **A run fails just when reading fails before the end of the input and the command to quit**, and
stops there; else it ends with the shell's leave. -/
theorem run_fails_iff (session : Session σ) (console : Console) (verbose : Bool)
    (reads : List Read) (hconsole : console.Unlimited) :
    let s : Shell σ := { session, console, verbose }
    (∀ before, (before.foldl Shell.read s).isReading = true ↔ GoesOn [] before) ∧
      ((∃ e, (s.run reads).phase = .failed e) ↔ ∃ before f, BreaksOff reads before f) ∧
      (∀ before f, BreaksOff reads before f →
        let t := before.foldl Shell.read s
        s.run reads = { t with prompts := t.prompts.push t.prompt, phase := .failed (.io f) }) ∧
      ((¬ ∃ before f, BreaksOff reads before f) →
        (s.run reads).phase = .ended ∧
          Text.bytes "Bye!\n\n" <:+ (s.run reads).console.out.held.toList) := by
  intro s
  have hready : s.Ready := ⟨⟨rfl, hconsole⟩, rfl, rfl⟩
  have hgoes : ∀ before, (before.foldl Shell.read s).isReading = true ↔ GoesOn [] before :=
    hready.isReading_foldl_read
  have hbreaks : ∀ before f, BreaksOff reads before f →
      let t := before.foldl Shell.read s
      s.run reads = { t with prompts := t.prompts.push t.prompt, phase := .failed (.io f) } := by
    rintro before f ⟨hbefore, after, rfl⟩
    have hreading := (hgoes before).mpr hbefore
    dsimp only
    rw [hready.free.run_append hreading, Shell.run, if_pos hreading,
      read_io (hready.free.foldl_read before).silent hreading]
    exact run_of_not_reading rfl after
  have hdeparted : (¬ ∃ before f, BreaksOff reads before f) → (s.run reads).Departed := by
    intro hno
    refine (hready.free.run_outcome rfl reads).resolve_right ?_
    rintro ⟨before, f, after, hreads, hbefore⟩
    exact hno ⟨before, f, (hgoes before).mp hbefore, after, hreads⟩
  refine ⟨hgoes, ⟨?_, ?_⟩, hbreaks, fun hno => ⟨(hdeparted hno).phase, (hdeparted hno).bye⟩⟩
  · rintro ⟨e, he⟩
    by_contra hno
    rw [(hdeparted hno).phase] at he
    cases he
  · rintro ⟨before, f, hbreak⟩
    exact ⟨.io f, by rw [hbreaks before f hbreak]⟩

/-- A fault in a statement, an error of the source, and a failure to read within a statement. -/
def torn : List Read :=
  [.line "R \\join;", .failed (.parse 0 (.other "bad line")), .line "\\list; R",
    .failed (.io (.other "gone")), .line "\\union S;"]

theorem torn_run_fails :
    let s : Shell Scripted := { session := { conn := { db := {} } } }
    let t := (torn.take 3).foldl Shell.read s
    let lines := torn.filter Read.isLine
    (Console.Unlimited {} ∧ BreaksOff torn (torn.take 3) (.other "gone")) ∧
      t.isReading = true ∧
      (s.run torn).phase = .failed (.io (.other "gone")) ∧
      (s.run torn).console = t.console ∧
      (s.run torn).session = t.session ∧
      (s.run lines).phase = .ended ∧
      Text.bytes "Bye!\n\n" <:+ (s.run lines).console.out.held.toList := by
  intro s t lines
  have hfirst : GoesOn [] (torn.take 3) := by
    refine ⟨by simp [torn, Read.Passing, Error.isFatal], ?_⟩
    decide +kernel
  have hbreak : BreaksOff torn (torn.take 3) (.other "gone") := ⟨hfirst, [.line "\\union S;"], rfl⟩
  have hlines : ¬ ∃ before f, BreaksOff lines before f := by
    rintro ⟨before, f, -, after, hreads⟩
    have hmem : .failed (.io f) ∈ lines := by simp [hreads]
    simpa [Read.isLine] using (List.mem_filter.mp hmem).2
  obtain ⟨hgoes, -, hfails, -⟩ :=
    run_fails_iff ({ conn := { db := {} } } : Session Scripted) {} false torn
      Console.unlimited_default
  obtain ⟨-, -, -, hleaves⟩ :=
    run_fails_iff ({ conn := { db := {} } } : Session Scripted) {} false lines
      Console.unlimited_default
  have hrun := hfails _ _ hbreak
  refine ⟨⟨Console.unlimited_default, hbreak⟩, (hgoes _).mpr hfirst, ?_, ?_, ?_, hleaves hlines⟩
  all_goals rw [hrun]

end RelAlgebra.Shell
