import RelAlgebra.Proofs.Shell.Lasting
import RelAlgebra.Proofs.Shell.Writing
import RelAlgebra.Proofs.Statement.Batch

/-!
The course of a shell as a list of acts.

Besides keeping text and asking for lines, a shell does four things: it answers the text of a
statement, reports an error of its source, complains of a statement without an end, and leaves. The
acts of a run are read off the run itself. Where nothing that is written has a limit, they depend on
the text that is pending and on what the source delivers alone, and performing them is the run.
-/

namespace RelAlgebra.Shell

variable {σ : Type} [Database σ]

/-! ### Acts -/

inductive Act where
  /-- The text of a statement is read and answered. -/
  | answer (text : List Char)
  /-- An error of the source is reported. -/
  | report (e : Error)
  /-- A statement that has no end is told of. -/
  | complain
  | leave
  deriving DecidableEq

def Act.text? : Act → Option (List Char)
  | answer text => some text
  | _ => none

def Act.isReport : Act → Bool
  | report _ => true
  | _ => false

def complain (s : Shell σ) : Shell σ :=
  { s with session.conn :=
      s.session.conn.warn "discarding unterminated statement at end of input" }.emit
    unterminatedReport

def perform (s : Shell σ) : Act → Shell σ
  | .answer text => s.answer text
  | .report e => s.recover e
  | .complain => s.complain
  | .leave => s.bye []

/-- Those of some texts that the shell answers: blank ones are passed over, and none is answered
after one that ends the shell. -/
def answered (s : Shell σ) : List (List Char) → List (List Char)
  | [] => []
  | text :: texts =>
    if Text.allBlank text then s.answered texts
    else text :: if (s.answer text).isReading then (s.answer text).answered texts else []

def ending (pending : List Char) : List Act :=
  (if Text.allBlank pending then [] else [.complain]) ++ [.leave]

/-- The acts for what came when a line was asked for. -/
def actsAt (s : Shell σ) : Read → List Act
  | .line text => (s.answered (Statement.cutAll (s.pending ++ text.toList ++ ['\n'])).1).map .answer
  | .endOfInput => ending s.pending
  | .failed e => [.report e]

def acts (s : Shell σ) : List Read → List Act
  | [] => if s.isReading then s.actsAt .endOfInput else []
  | r :: reads => if s.isReading then s.actsAt r ++ (s.read r).acts reads else []

/-! ### Shells without limits -/

/-- Nothing that the shell writes has a limit, and it shows no prompts. -/
abbrev Free (s : Shell σ) : Prop := s.Meets fun _ c => c.Unlimited

lemma echo_unlimited {t : Sink} (h : t.limit = none) (prompt : String) (r : Read) :
    (echo prompt t r).1 = r ∧ (echo prompt t r).2.limit = none := by
  cases r with
  | line text =>
    rw [echo, writeAll_unlimited h]
    exact ⟨rfl, h⟩
  | endOfInput => exact ⟨rfl, h⟩
  | failed e => exact ⟨rfl, h⟩

lemma lasting_unlimited : Lasting fun (_ : Session σ) c => c.Unlimited where
  write h ps := by
    obtain ⟨c', hput, hc', -⟩ := h.putAll ps
    rwa [hput]
  echo h t ht prompt r := by
    refine ⟨fun ch => ?_, ?_⟩
    · rw [Console.sink_transcript]
      exact h.sink ch
    · simpa using (echo_unlimited (h.transcript t ht) prompt r).2
  respond h _ _ := h
  warn h _ := h

/-- The two outputs without the transcript. -/
def Console.plain (c : Console) : Console := { c with transcript := none }

@[simp] lemma Console.sink_plain (c : Console) (ch : Channel) : c.plain.sink ch = c.sink ch := by
  cases ch <;> rfl

lemma Console.plain_eq {c c' : Console} (h : ∀ ch, c.sink ch = c'.sink ch) : c.plain = c'.plain :=
  ext_sink (fun ch => by rw [sink_plain, sink_plain, h]) rfl

/-- The shell without what it keeps between two lines: pending text, prompts and the transcript. -/
def core (s : Shell σ) : Shell σ :=
  { s with pending := [], lineNumber := 1, prompts := #[], console := s.console.plain }

section

omit [Database σ]

variable {s : Shell σ}

lemma Free.core (h : s.Free) : s.core.Free := by
  refine ⟨h.silent, fun ch => ?_, by simp [Shell.core, Console.plain]⟩
  rw [Shell.core, Console.sink_plain]
  exact h.holds.sink ch

lemma Free.withSession (h : s.Free) (session : Session σ) : Free { s with session } :=
  ⟨h.silent, h.holds⟩

lemma Free.emit_eq (h : s.Free) (ps : List Piece) :
    ∃ c, s.emit ps = { s with console := c } ∧ c.Unlimited ∧
      (∀ ch, c.sink ch = (s.console.sink ch).push (bytesOn ch ps)) ∧
      (s.console.transcript = none → c.transcript = none) := by
  obtain ⟨c, hput, hc, hsink, ht⟩ := h.holds.putAll ps
  exact ⟨c, by rw [Shell.emit, hput], hc, hsink, ht⟩

lemma Free.emit (h : s.Free) (ps : List Piece) : (s.emit ps).Free := by
  obtain ⟨c, he, hc, -, -⟩ := h.emit_eq ps
  rw [he]
  exact ⟨h.silent, hc⟩

lemma Free.isReading_emit (h : s.Free) (ps : List Piece) :
    (s.emit ps).isReading = s.isReading := by
  obtain ⟨c, he, -, -, -⟩ := h.emit_eq ps
  rw [he]
  rfl

lemma Free.core_emit (h : s.Free) (ps : List Piece) : (s.emit ps).core = s.core.emit ps := by
  obtain ⟨c, he, -, hsink, -⟩ := h.emit_eq ps
  obtain ⟨c', he', -, hsink', ht'⟩ := h.core.emit_eq ps
  have hplain : c'.plain = c' := by rw [Console.plain, ← ht' rfl]
  have hconsole : c.plain = c' := by
    rw [← hplain]
    refine Console.plain_eq fun ch => ?_
    rw [hsink, hsink', Shell.core, Console.sink_plain]
  rw [he, he', ← hconsole]
  rfl

lemma Free.core_emit_append (h : s.Free) (ps qs : List Piece) :
    (s.emit (ps ++ qs)).core = ((s.emit ps).emit qs).core := by
  obtain ⟨c, he, -, hsink, -⟩ := h.emit_eq (ps ++ qs)
  obtain ⟨c₁, he₁, hc₁, hsink₁, -⟩ := h.emit_eq ps
  obtain ⟨c₂, he₂, -, hsink₂, -⟩ := (h.emit ps).emit_eq qs
  have hconsole : c.plain = c₂.plain := by
    refine Console.plain_eq fun ch => ?_
    rw [hsink, hsink₂, he₁, hsink₁, Sink.push_push, bytesOn_append]
  rw [he, he₂, he₁]
  simp only [Shell.core, hconsole]

lemma core_close (s : Shell σ) : s.close.core = s.core.close := by
  have h : s.core.isReading = s.isReading := rfl
  unfold close
  rw [h]
  split <;> rfl

lemma isReading_bye (s : Shell σ) (ps : List Piece) : (s.bye ps).isReading = false := by
  have h (s : Shell σ) : s.close.isReading = false := by
    unfold Shell.close
    split
    · rfl
    · next hs => simpa using hs
  exact h _

lemma Free.core_bye (h : s.Free) (ps : List Piece) : (s.bye ps).core = s.core.bye ps := by
  rw [Shell.bye, core_close, h.core_emit]
  rfl

lemma Free.core_recover (h : s.Free) (e : Error) : (s.recover e).core = s.core.recover e := by
  unfold Shell.recover
  split
  · rfl
  · exact (h.withSession _).core_emit _

lemma Free.isReading_recover (h : s.Free) {e : Error} (he : e.isFatal = false) :
    (s.recover e).isReading = s.isReading := by
  unfold Shell.recover
  rw [if_neg (by simp [he])]
  exact (h.withSession _).isReading_emit _

lemma Free.pending_recover (h : s.Free) {e : Error} (he : e.isFatal = false) :
    (s.recover e).pending = s.pending := by
  obtain ⟨c, hemit, -⟩ := (h.withSession _).emit_eq (recoveryReport e)
  rw [Shell.recover, if_neg (by simp [he])]
  dsimp only
  rw [hemit]

lemma Free.complain (h : s.Free) : s.complain.Free := (h.withSession _).emit _

lemma Free.core_complain (h : s.Free) : s.complain.core = s.core.complain :=
  (h.withSession _).core_emit _

lemma Free.core_finish (h : s.Free) :
    s.finish.core = if Text.allBlank s.pending then s.core.bye [] else s.core.complain.bye [] := by
  unfold Shell.finish
  split
  · exact h.core_bye []
  · rw [← h.core_complain, ← h.complain.core_bye, Shell.bye, core_close,
      (h.withSession _).core_emit_append, ← core_close]
    rfl

end

lemma quit_respond (verbose : Bool) (text : List Char) (session : Session σ) :
    (respond verbose text session).1.quit = true ↔ Statement.Quits text := by
  unfold respond Statement.Quits
  cases Statement.parse (String.ofList text) with
  | error e => simp
  | ok st =>
    rcases st with (_ | _ | _ | sql) | e <;> simp

section

variable {s : Shell σ}

lemma Free.core_answer (h : s.Free) (text : List Char) :
    (s.answer text).core = s.core.answer text := by
  have hrespond : respond s.core.verbose text s.core.session = respond s.verbose text s.session :=
    rfl
  simp only [Shell.answer, hrespond]
  split
  · exact (h.withSession _).core_bye _
  · exact (h.withSession _).core_emit _

lemma Free.isReading_answer (h : s.Free) (hr : s.isReading = true) (text : List Char) :
    (s.answer text).isReading = true ↔ ¬ Statement.Quits text := by
  rw [← quit_respond s.verbose text s.session]
  simp only [Shell.answer]
  split
  · next hquit => simp [isReading_bye, hquit]
  · next hquit =>
    rw [(h.withSession _).isReading_emit]
    exact iff_of_true hr hquit

end

/-! ### Statements -/

section

variable {s : Shell σ}

lemma Free.answered_eq (h : s.Free) (hr : s.isReading = true) (texts : List (List Char)) :
    s.answered texts = Statement.throughQuit (texts.filter fun text => !Text.allBlank text) := by
  induction texts generalizing s with
  | nil => rfl
  | cons text texts ih =>
    rw [answered]
    split
    · next hblank => rw [ih h hr, List.filter_cons_of_neg (by simp [hblank])]
    · next hblank =>
      rw [List.filter_cons_of_pos (by simp [hblank]), Statement.throughQuit]
      by_cases hquits : Statement.Quits text
      · have hend : (s.answer text).isReading = false := by
          simpa [hquits] using h.isReading_answer hr text
        rw [if_pos hquits, hend]
        rfl
      · have hgo := (h.isReading_answer hr text).mpr hquits
        rw [if_neg hquits, if_pos hgo, ih (lasting_unlimited.answer h text) hgo]

lemma Free.core_answerAll (h : s.Free) (texts : List (List Char)) :
    (s.answerAll texts).core = (s.answered texts).foldl Shell.answer s.core := by
  induction texts generalizing s with
  | nil => rfl
  | cons text texts ih =>
    rw [Shell.answerAll, answered]
    split
    · exact ih h
    · dsimp only
      rw [List.foldl_cons, ← h.core_answer]
      split
      · exact ih (lasting_unlimited.answer h text)
      · rfl

lemma Free.isReading_answerAll (h : s.Free) (hr : s.isReading = true) (texts : List (List Char)) :
    (s.answerAll texts).isReading = true ↔
      ¬ ∃ text ∈ texts.filter (fun text => !Text.allBlank text), Statement.Quits text := by
  induction texts generalizing s with
  | nil => simpa [Shell.answerAll] using hr
  | cons text texts ih =>
    rw [Shell.answerAll]
    split
    · next hblank => rw [ih h hr, List.filter_cons_of_neg (by simp [hblank])]
    · next hblank =>
      rw [List.filter_cons_of_pos (by simp [hblank])]
      have hgo := h.isReading_answer hr text
      dsimp only
      split
      · next hreading =>
        rw [ih (lasting_unlimited.answer h text) hreading]
        simp [hgo.mp hreading]
      · next hend =>
        have hquits : Statement.Quits text := by
          by_contra hno
          exact hend (hgo.mpr hno)
        simp [hend, hquits]

end

/-! ### Lines -/

/-- What is kept of a text from which statements were cut. -/
def kept (rest : List Char) : List Char := if Text.allBlank rest then [] else rest

/-- Acts on what came when a line was asked for, without a copy of it. -/
def meet (s : Shell σ) : Read → Shell σ
  | .line text => s.take text
  | .endOfInput => s.finish
  | .failed e => s.recover e

section

variable {s : Shell σ}

omit [Database σ] in
lemma core_settle (s : Shell σ) : s.settle.core = s.core := by
  unfold settle
  split <;> rfl

lemma Free.core_take (h : s.Free) (line : String) :
    (s.take line).core =
      (s.answered (Statement.cutAll (s.pending ++ line.toList ++ ['\n'])).1).foldl Shell.answer
        s.core := by
  rw [← h.core_answerAll]
  simp only [Shell.take]
  split
  · exact core_settle _
  · rfl

lemma Free.isReading_take (h : s.Free) (hr : s.isReading = true) (line : String) :
    (s.take line).isReading = true ↔
      ¬ ∃ text ∈ Statement.pieces (s.pending ++ line.toList ++ ['\n']), Statement.Quits text := by
  have hcore : (s.take line).isReading =
      (s.answerAll (Statement.cutAll (s.pending ++ line.toList ++ ['\n'])).1).isReading := by
    change (s.take line).core.isReading = _
    rw [h.core_take, ← h.core_answerAll]
    rfl
  rw [hcore, h.isReading_answerAll hr]
  rfl

lemma pending_take {line : String} (hr : (s.take line).isReading = true) :
    (s.take line).pending =
      kept (Statement.cutAll (s.pending ++ line.toList ++ ['\n'])).2 := by
  unfold Shell.take at hr ⊢
  dsimp only at hr ⊢
  split at hr
  · next hgo =>
    rw [if_pos hgo, settle, kept]
    dsimp only
    split <;> rfl
  · next hend => exact absurd hr hend

lemma Free.meet (h : s.Free) (r : Read) : (s.meet r).Free := by
  cases r with
  | line text => exact lasting_unlimited.take h text
  | endOfInput => exact lasting_unlimited.finish h
  | failed e => exact lasting_unlimited.recover h e

lemma Free.core_meet (h : s.Free) (r : Read) :
    (s.meet r).core = (s.actsAt r).foldl perform s.core := by
  cases r with
  | line text =>
    rw [actsAt, List.foldl_map]
    exact h.core_take text
  | endOfInput =>
    rw [Shell.meet, h.core_finish, actsAt, ending]
    split <;> rfl
  | failed e => exact h.core_recover e

omit [Database σ] in
lemma Free.echoLine_eq (h : s.Free) (r : Read) :
    ∃ c, s.echoLine r = (r, { s with console := c }) ∧ c.Unlimited ∧
      c.plain = s.console.plain := by
  cases ht : s.console.transcript with
  | none => exact ⟨s.console, echoLine_of_plain ht r, h.holds, rfl⟩
  | some t =>
    obtain ⟨hsame, hlimit⟩ := echo_unlimited (h.holds.transcript t ht) s.prompt r
    refine ⟨{ s.console with transcript := some (echo s.prompt t r).2 }, ?_,
      ⟨fun ch => ?_, by simpa using hlimit⟩, rfl⟩
    · simp only [echoLine, ht, hsame]
    · rw [Console.sink_transcript]
      exact h.holds.sink ch

lemma Free.read_asked (h : s.Free) (hr : s.isReading = true) (r : Read) :
    ∃ c : Console, c.Unlimited ∧ c.plain = s.console.plain ∧
      s.read r = Shell.meet { s with prompts := s.prompts.push s.prompt, console := c } r := by
  have hask := ask_of_silent h.silent
  have hfree : s.ask.Free := by
    rw [hask]
    exact ⟨h.silent, h.holds⟩
  have hreading : s.ask.isReading = true := by
    rw [hask]
    exact hr
  obtain ⟨c, hecho, hc, hplain⟩ := hfree.echoLine_eq r
  rw [hask] at hplain
  refine ⟨c, hc, hplain, ?_⟩
  simp only [Shell.read, hreading, if_true, Shell.heed, hecho]
  rw [hask]
  cases r <;> rfl

lemma Free.read_eq (h : s.Free) (hr : s.isReading = true) (r : Read) :
    ∃ t : Shell σ, t.Free ∧ t.core = s.core ∧ t.pending = s.pending ∧ s.read r = t.meet r := by
  obtain ⟨c, hc, hplain, heq⟩ := h.read_asked hr r
  refine ⟨{ s with prompts := s.prompts.push s.prompt, console := c }, ⟨h.silent, hc⟩, ?_, rfl,
    heq⟩
  simp only [Shell.core, hplain]

end

/-! ### Runs -/

section

variable {s : Shell σ}

lemma acts_of_ended (h : s.isReading = false) (reads : List Read) : s.acts reads = [] := by
  cases reads <;> simp [acts, h]

omit [Database σ] in
lemma isReading_of_core {t : Shell σ} (h : t.core = s.core) : t.isReading = s.isReading := by
  have hcore : t.core.isReading = s.core.isReading := by rw [h]
  exact hcore

lemma Free.actsAt_congr (h : s.Free) {t : Shell σ} (ht : t.Free) (hr : s.isReading = true)
    (htr : t.isReading = true) (hpending : t.pending = s.pending) (r : Read) :
    t.actsAt r = s.actsAt r := by
  cases r with
  | line text => rw [actsAt, actsAt, hpending, h.answered_eq hr, ht.answered_eq htr]
  | endOfInput => rw [actsAt, actsAt, hpending]
  | failed e => rfl

lemma Free.core_run (h : s.Free) (reads : List Read) :
    (s.run reads).core = (s.acts reads).foldl perform s.core := by
  -- the step: a read does what its acts do
  have hread {s : Shell σ} (h : s.Free) (hr : s.isReading = true) (r : Read) :
      (s.read r).Free ∧ (s.read r).core = (s.actsAt r).foldl perform s.core := by
    obtain ⟨t, ht, hcore, hpending, heq⟩ := h.read_eq hr r
    have htr : t.isReading = true := (isReading_of_core hcore).trans hr
    rw [heq, ← h.actsAt_congr ht hr htr hpending, ← hcore]
    exact ⟨ht.meet r, ht.core_meet r⟩
  induction reads generalizing s with
  | nil =>
    rw [Shell.run, acts]
    split
    · next hr => exact (hread h hr .endOfInput).2
    · rfl
  | cons r reads ih =>
    rw [Shell.run, acts]
    split
    · next hr =>
      obtain ⟨hfree, hcore⟩ := hread h hr r
      rw [ih hfree, hcore, List.foldl_append]
    · rfl

end

/-! ### Acts without a shell -/

/-- A line, or an error after which reading goes on. -/
def Read.Passing : Read → Prop
  | .line _ => True
  | .endOfInput => False
  | .failed e => e.isFatal = false

/-- The acts of a shell that holds some text when the rest of the input comes. -/
def actsFrom (pending : List Char) : List Read → List Act
  | [] => ending pending
  | .endOfInput :: _ => ending pending
  | .failed e :: reads => .report e :: actsFrom pending reads
  | .line line :: reads =>
    (Statement.throughQuit (Statement.pieces (pending ++ line.toList ++ ['\n']))).map .answer ++
      if ∃ text ∈ Statement.pieces (pending ++ line.toList ++ ['\n']), Statement.Quits text then []
      else actsFrom (kept (Statement.cutAll (pending ++ line.toList ++ ['\n'])).2) reads

lemma Free.acts_eq {s : Shell σ} (h : s.Free) (hr : s.isReading = true) {reads : List Read}
    (hreads : ∀ r ∈ reads, r.Passing) : s.acts reads = actsFrom s.pending reads := by
  induction reads generalizing s with
  | nil =>
    rw [acts, if_pos hr]
    rfl
  | cons r reads ih =>
    obtain ⟨hpassing, hrest⟩ := List.forall_mem_cons.mp hreads
    obtain ⟨t, ht, hcore, hpending, heq⟩ := h.read_eq hr r
    have htr : t.isReading = true := (isReading_of_core hcore).trans hr
    rw [acts, if_pos hr, heq]
    cases r with
    | endOfInput => exact hpassing.elim
    | failed e =>
      have hgo : (t.recover e).isReading = true := (ht.isReading_recover hpassing).trans htr
      rw [Shell.meet, ih (lasting_unlimited.recover ht e) hgo hrest, ht.pending_recover hpassing,
        hpending]
      rfl
    | line text =>
      rw [Shell.meet, actsAt, h.answered_eq hr, actsFrom]
      have hgo := ht.isReading_take htr text
      rw [hpending] at hgo
      congr 1
      split
      · next hquits =>
        exact acts_of_ended (Bool.eq_false_iff.mpr fun hreading => hgo.mp hreading hquits) reads
      · next hquits =>
        have hreading := hgo.mpr hquits
        rw [ih (lasting_unlimited.take ht text) hreading hrest, pending_take hreading, hpending]

end RelAlgebra.Shell
