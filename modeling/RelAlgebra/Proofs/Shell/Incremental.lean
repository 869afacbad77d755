import RelAlgebra.Proofs.Session.Log
import RelAlgebra.Proofs.Shell.Acts

/-!
Reading statements line by line.

A shell keeps what follows the last semicolon and cuts again when the next line has come. It throws
away what is left when it is blank. The statements it answers are those of the whole input, but for
blanks at their start, and it complains of the end of the input just when more than blanks is left
of the whole. Errors of the source in between add reports, which are written to the error output,
and nothing else.
-/

namespace RelAlgebra

namespace Statement

lemma cut_cutAll (cs : List Char) : cut (cutAll cs).2 = none := by
  induction cs using cutAll.induct with
  | case1 cs h =>
    rw [cutAll_of_none h]
    exact h
  | case2 cs text rest h _ _ _ ih =>
    rw [cutAll_of_cut h]
    exact ih

lemma pieces_of_none {cs : List Char} (h : cut cs = none) : pieces cs = [] := by
  rw [pieces, cutAll_of_none h]
  rfl

lemma pieces_append (as bs : List Char) :
    pieces (as ++ bs) = pieces as ++ pieces ((cutAll as).2 ++ bs) := by
  rw [pieces, cutAll_append, List.filter_append]
  rfl

lemma throughQuit_of_not {texts : List (List Char)} (h : ¬ ∃ text ∈ texts, Quits text) :
    throughQuit texts = texts := by
  have happend := throughQuit_append texts []
  rw [if_neg h] at happend
  simpa [throughQuit] using happend

lemma not_quits_of_allBlank {text : List Char} (h : Text.allBlank text = true) : ¬ Quits text := by
  have htrim : Text.trimStart text = [] := by
    rw [← text.append_nil, trimStart_append h]
    rfl
  rw [← quits_trimStart, htrim]
  decide +kernel

lemma exists_quits_pieces (cs : List Char) :
    (∃ text ∈ pieces cs, Quits text) ↔ ∃ text ∈ (cutAll cs).1, Quits text := by
  constructor
  · rintro ⟨text, htext, hquits⟩
    exact ⟨text, (List.mem_filter.mp htext).1, hquits⟩
  · rintro ⟨text, htext, hquits⟩
    refine ⟨text, List.mem_filter.mpr ⟨htext, ?_⟩, hquits⟩
    by_contra hblank
    exact not_quits_of_allBlank (by simpa using hblank) hquits

lemma exists_quits_trimStart (texts : List (List Char)) :
    (∃ text ∈ texts.map Text.trimStart, Quits text) ↔ ∃ text ∈ texts, Quits text := by
  simp only [List.mem_map, exists_exists_and_eq_and, quits_trimStart]

end Statement

namespace Shell

open Statement

/-! ### The whole input -/

def Read.isLine : Read → Bool
  | .line _ => true
  | _ => false

def Read.chars : Read → List Char
  | .line text => text.toList ++ ['\n']
  | _ => []

def joined (reads : List Read) : List Char := reads.flatMap Read.chars

lemma joined_line (pending : List Char) (line : String) (reads : List Read) :
    pending ++ joined (.line line :: reads) =
      (pending ++ line.toList ++ ['\n']) ++ joined reads := by
  simp [joined, Read.chars]

lemma pieces_kept (rest cs : List Char) :
    (pieces (kept rest ++ cs)).map Text.trimStart = (pieces (rest ++ cs)).map Text.trimStart ∧
      Text.allBlank (cutAll (kept rest ++ cs)).2 = Text.allBlank (cutAll (rest ++ cs)).2 := by
  unfold kept
  split
  · next hblank =>
    obtain ⟨hpieces, hrest⟩ := pieces_blanks hblank cs
    exact ⟨hpieces.symm, hrest.symm⟩
  · exact ⟨rfl, rfl⟩

lemma cut_kept (cs : List Char) : cut (kept (cutAll cs).2) = none := by
  unfold kept
  split
  · rfl
  · exact cut_cutAll cs

/-- The texts that are answered are the statements of the whole, up to the command to quit and but
for blanks at their start. -/
lemma texts_actsFrom {pending : List Char} (hp : cut pending = none) {reads : List Read}
    (hreads : ∀ r ∈ reads, r.Passing) :
    ((actsFrom pending reads).filterMap Act.text?).map Text.trimStart =
      throughQuit ((pieces (pending ++ joined reads)).map Text.trimStart) := by
  induction reads generalizing pending with
  | nil =>
    rw [actsFrom, ending, joined, List.flatMap_nil, List.append_nil, pieces_of_none hp]
    split <;> rfl
  | cons r reads ih =>
    obtain ⟨hpassing, hrest⟩ := List.forall_mem_cons.mp hreads
    cases r with
    | endOfInput => exact hpassing.elim
    | failed e => exact ih hp hrest
    | line line =>
      have htext (texts : List (List Char)) :
          (texts.map Act.answer).filterMap Act.text? = texts := by
        rw [List.filterMap_map]
        exact List.filterMap_some
      rw [joined_line, actsFrom]
      generalize pending ++ line.toList ++ ['\n'] = whole
      rw [← map_trimStart_throughQuit, pieces_append, throughQuit_append, List.filterMap_append,
        htext]
      by_cases hquits : ∃ text ∈ pieces whole, Quits text
      · rw [if_pos hquits, if_pos hquits, List.filterMap_nil, List.append_nil]
      · rw [if_neg hquits, if_neg hquits, throughQuit_of_not hquits, List.map_append,
          List.map_append, ih (cut_kept _) hrest, (pieces_kept _ _).1, map_trimStart_throughQuit]

lemma complain_mem_actsFrom {pending : List Char} (hp : cut pending = none) {reads : List Read}
    (hreads : ∀ r ∈ reads, r.Passing) :
    .complain ∈ actsFrom pending reads ↔
      (¬ ∃ text ∈ pieces (pending ++ joined reads), Quits text) ∧
        Text.allBlank (cutAll (pending ++ joined reads)).2 = false := by
  induction reads generalizing pending with
  | nil =>
    rw [actsFrom, joined, List.flatMap_nil, List.append_nil, pieces_of_none hp, cutAll_of_none hp]
    by_cases hblank : Text.allBlank pending <;> simp [ending, hblank]
  | cons r reads ih =>
    obtain ⟨hpassing, hrest⟩ := List.forall_mem_cons.mp hreads
    cases r with
    | endOfInput => exact hpassing.elim
    | failed e =>
      rw [actsFrom, List.mem_cons, ih hp hrest]
      simp only [reduceCtorEq, false_or]
      rfl
    | line line =>
      -- an answer is no complaint; nothing follows the command to quit, not even a complaint
      have hanswers (texts : List (List Char)) : .complain ∉ texts.map Act.answer := by simp
      rw [joined_line, actsFrom]
      generalize pending ++ line.toList ++ ['\n'] = whole
      rw [pieces_append, cutAll_append, List.mem_append]
      simp only [hanswers, false_or, List.mem_append, or_and_right, exists_or, not_or]
      split
      · next hquits => simp [hquits]
      · next hquits =>
        rw [ih (cut_kept _) hrest, ← exists_quits_trimStart, (pieces_kept _ _).1,
          (pieces_kept _ _).2, exists_quits_trimStart]
        simp only [hquits, not_false_eq_true, true_and]

/-! ### Errors of the source -/

lemma actsFrom_filter_isLine (pending : List Char) {reads : List Read}
    (hreads : ∀ r ∈ reads, r.Passing) :
    actsFrom pending (reads.filter Read.isLine) =
      (actsFrom pending reads).filter (!·.isReport) := by
  induction reads generalizing pending with
  | nil =>
    rw [List.filter_nil, actsFrom, ending]
    split <;> rfl
  | cons r reads ih =>
    obtain ⟨hpassing, hrest⟩ := List.forall_mem_cons.mp hreads
    cases r with
    | endOfInput => exact hpassing.elim
    | failed e => exact ih pending hrest
    | line line =>
      have hanswers (texts : List (List Char)) :
          (texts.map Act.answer).filter (!·.isReport) = texts.map Act.answer := by
        refine List.filter_eq_self.mpr fun act hact => ?_
        obtain ⟨text, -, rfl⟩ := List.mem_map.mp hact
        rfl
      rw [List.filter_cons_of_pos rfl, actsFrom, actsFrom, List.filter_append, hanswers]
      split
      · rfl
      · rw [ih _ hrest]

lemma failed_mem_of_report {pending : List Char} {reads : List Read} {e : Error}
    (h : .report e ∈ actsFrom pending reads) : .failed e ∈ reads := by
  induction reads generalizing pending with
  | nil =>
    rw [actsFrom, ending] at h
    split at h <;> simp at h
  | cons r reads ih =>
    cases r with
    | endOfInput =>
      rw [actsFrom, ending] at h
      split at h <;> simp at h
    | failed e' =>
      rw [actsFrom, List.mem_cons] at h
      rcases h with h | h
      · cases h
        exact List.mem_cons_self
      · exact List.mem_cons_of_mem _ (ih h)
    | line line =>
      rw [actsFrom, List.mem_append] at h
      rcases h with h | h
      · simp at h
      · split at h
        · simp at h
        · exact List.mem_cons_of_mem _ (ih h)

variable {σ : Type} [Database σ]

/-- The shells agree on all but the error output and the log. -/
structure Level (a b : Shell σ) : Prop where
  db : a.session.conn.db = b.session.conn.db
  names : a.session.names = b.session.names
  out : a.console.out = b.console.out
  verbose : a.verbose = b.verbose
  phase : a.phase = b.phase

lemma respond_unlogged {s s' : Session σ} (hdb : s.conn.db = s'.conn.db)
    (hnames : s.names = s'.names) (verbose : Bool) (text : List Char) :
    (respond verbose text s).1 = (respond verbose text s').1 ∧
      (respond verbose text s).2.conn.db = (respond verbose text s').2.conn.db ∧
      (respond verbose text s).2.names = (respond verbose text s').2.names := by
  unfold respond
  cases Statement.parse (String.ofList text) with
  | error e => exact ⟨rfl, hdb, hnames⟩
  | ok st =>
    rcases st with (_ | _ | _ | sql) | e
    · exact ⟨rfl, hdb, hnames⟩
    · exact ⟨rfl, hdb, hnames⟩
    · obtain ⟨hanswer, hdb'⟩ := Connection.ask_unlogged hdb Database.listRelations
      simp only [Session.listRelations, hanswer, hdb', hnames, and_self]
    · have hdebug : (s.conn.debug sql).db = (s'.conn.debug sql).db := hdb
      obtain ⟨hanswer, hdb'⟩ := Connection.ask_unlogged hdebug (Database.execCommands sql)
      simp only [Session.execCommands, hanswer, hdb', hnames, and_self]
    · obtain ⟨hevaluation, hdb', hnames'⟩ := Session.evaluate_unlogged hdb e
      simp only [hevaluation, hdb', hnames', and_self]

namespace Level

variable {a b : Shell σ}

omit [Database σ] in
lemma emit (h : Level a b) (ha : a.Free) (hb : b.Free) (ps : List Piece) :
    Level (a.emit ps) (b.emit ps) := by
  obtain ⟨c, hea, -, hsink, -⟩ := ha.emit_eq ps
  obtain ⟨c', heb, -, hsink', -⟩ := hb.emit_eq ps
  have hout : c.out = c'.out := by
    have hc : c.out = a.console.out.push (bytesOn .out ps) := hsink .out
    have hc' : c'.out = b.console.out.push (bytesOn .out ps) := hsink' .out
    rw [hc, hc', h.out]
  rw [hea, heb]
  exact ⟨h.db, h.names, hout, h.verbose, h.phase⟩

omit [Database σ] in
lemma close (h : Level a b) : Level a.close b.close := by
  have hreading : a.isReading = b.isReading := by rw [isReading, isReading, h.phase]
  unfold Shell.close
  rw [hreading]
  split
  · exact ⟨h.db, h.names, h.out, h.verbose, rfl⟩
  · exact h

omit [Database σ] in
lemma bye (h : Level a b) (ha : a.Free) (hb : b.Free) (ps : List Piece) :
    Level (a.bye ps) (b.bye ps) :=
  (h.emit ha hb _).close

lemma answer (h : Level a b) (ha : a.Free) (hb : b.Free) (text : List Char) :
    Level (a.answer text) (b.answer text) := by
  obtain ⟨hreply, hdb, hnames⟩ := respond_unlogged h.db h.names b.verbose text
  have hverbose : respond a.verbose text a.session = respond b.verbose text a.session := by
    rw [h.verbose]
  have hlevel : Level { a with session := (respond b.verbose text a.session).2 }
      { b with session := (respond b.verbose text b.session).2 } :=
    ⟨hdb, hnames, h.out, h.verbose, h.phase⟩
  simp only [Shell.answer, hverbose, hreply]
  split
  · exact hlevel.bye (ha.withSession _) (hb.withSession _) _
  · exact hlevel.emit (ha.withSession _) (hb.withSession _) _

omit [Database σ] in
lemma emit_err (h : Level a b) (ha : a.Free) (texts : List String) :
    Level (a.emit (errPieces texts)) b := by
  have hnone : bytesOn .out (errPieces texts) = [] := by
    simp [bytesOn, errPieces, List.filter_map, Function.comp_def]
  obtain ⟨c, hemit, -, hsink, -⟩ := ha.emit_eq (errPieces texts)
  have hout : c.out = a.console.out := by
    have hc := hsink .out
    rwa [hnone, Sink.push_nil] at hc
  rw [hemit]
  exact ⟨h.db, h.names, hout.trans h.out, h.verbose, h.phase⟩

omit [Database σ] in
lemma report (h : Level a b) (ha : a.Free) {e : Error} (he : e.isFatal = false) :
    Level (a.recover e) b := by
  unfold Shell.recover
  rw [if_neg (by simp [he])]
  have hwarned (text : String) :
      Level { a with session := { a.session with conn := a.session.conn.warn text } } b :=
    ⟨h.db, h.names, h.out, h.verbose, h.phase⟩
  exact (hwarned _).emit_err (ha.withSession _) _

lemma perform (h : Level a b) (ha : a.Free) (hb : b.Free) {act : Act}
    (hact : act.isReport = false) : Level (a.perform act) (b.perform act) := by
  cases act with
  | answer text => exact h.answer ha hb text
  | report e => cases hact
  | complain =>
    have hwarned (text : String) :
        Level { a with session := { a.session with conn := a.session.conn.warn text } }
          { b with session := { b.session with conn := b.session.conn.warn text } } :=
      ⟨h.db, h.names, h.out, h.verbose, h.phase⟩
    exact (hwarned _).emit (ha.withSession _) (hb.withSession _) _
  | leave => exact h.bye ha hb []

end Level

lemma Free.perform {s : Shell σ} (h : s.Free) (act : Act) : (s.perform act).Free := by
  cases act with
  | answer text => exact lasting_unlimited.answer h text
  | report e => exact lasting_unlimited.recover h e
  | complain => exact h.complain
  | leave => exact lasting_unlimited.bye h []

lemma Level.foldl_perform {a b : Shell σ} (h : Level a b) (ha : a.Free) (hb : b.Free)
    {acts : List Act} (hacts : ∀ e, .report e ∈ acts → e.isFatal = false) :
    Level (acts.foldl Shell.perform a) ((acts.filter (!·.isReport)).foldl Shell.perform b) := by
  induction acts generalizing a b with
  | nil => exact h
  | cons act acts ih =>
    have hrest : ∀ e, .report e ∈ acts → e.isFatal = false := fun e he =>
      hacts e (List.mem_cons_of_mem _ he)
    cases hact : act.isReport with
    | false =>
      rw [List.filter_cons_of_pos (by simp [hact])]
      exact ih (h.perform ha hb hact) (ha.perform act) (hb.perform act) hrest
    | true =>
      rw [List.filter_cons_of_neg (by simp [hact])]
      cases act with
      | report e =>
        exact ih (h.report ha (hacts e List.mem_cons_self)) (ha.perform _) hb hrest
      | _ => cases hact

/-! ### Runs -/

/-- **A shell that reads line by line answers the statements of the whole input.** -/
theorem run_cuts_whole (session : Session σ) (console : Console) (verbose : Bool)
    (reads : List Read) (hconsole : console.Unlimited) (hreads : ∀ r ∈ reads, r.Passing) :
    let s : Shell σ := { session, console, verbose }
    let lines := reads.filter Read.isLine
    let (parts, rest) := cutAll (joined reads)
    (s.run reads).core = (s.acts reads).foldl perform s.core ∧
      ((s.acts reads).filterMap Act.text?).map Text.trimStart =
        throughQuit ((parts.filter fun text => !Text.allBlank text).map Text.trimStart) ∧
      (.complain ∈ s.acts reads ↔
        (∀ text ∈ parts, ¬ Quits text) ∧ Text.allBlank rest = false) ∧
      s.acts lines = (s.acts reads).filter (!·.isReport) ∧
      (s.run lines).console.out = (s.run reads).console.out ∧
      (s.run lines).session.conn.db = (s.run reads).session.conn.db ∧
      (s.run lines).session.names = (s.run reads).session.names ∧
      (s.run lines).phase = (s.run reads).phase := by
  intro s lines
  have hfree : s.Free := ⟨rfl, hconsole⟩
  have hlines : ∀ r ∈ lines, r.Passing := fun r hr => hreads r (List.mem_filter.mp hr).1
  have hacts : s.acts reads = actsFrom [] reads := hfree.acts_eq rfl hreads
  have hactsLines : s.acts lines = actsFrom [] lines := hfree.acts_eq rfl hlines
  have hreports : actsFrom [] lines = (actsFrom [] reads).filter (!·.isReport) :=
    actsFrom_filter_isLine [] hreads
  have hcomplain := complain_mem_actsFrom (show cut [] = none from rfl) hreads
  rw [exists_quits_pieces] at hcomplain
  have hlevel : Level (s.run reads).core (s.run lines).core := by
    rw [hfree.core_run, hfree.core_run, hactsLines, hreports, hacts]
    refine Level.foldl_perform ⟨rfl, rfl, rfl, rfl, rfl⟩ hfree.core hfree.core fun e he => ?_
    exact hreads _ (failed_mem_of_report he)
  refine ⟨hfree.core_run reads, ?_, ?_, ?_, hlevel.out.symm, hlevel.db.symm, hlevel.names.symm,
    hlevel.phase.symm⟩
  · rw [hacts]
    exact texts_actsFrom rfl hreads
  · rw [hacts, hcomplain]
    simp
  · rw [hactsLines, hreports, hacts]

/-- A statement over three lines, an error between them, and more after the command to quit. -/
def interrupted : List Read :=
  [.line "\\select_\x7bx;", .failed (.parse 0 (.other "bad line")), .line "\x7d R ; ", .line " ;",
    .line " \\quit; S"]

theorem interrupted_cuts_whole :
    let s : Shell Scripted := { session := { conn := { db := {} } } }
    (Console.Unlimited {} ∧ ∀ r ∈ interrupted, r.Passing) ∧
      (((s.acts interrupted).filterMap Act.text?).map Text.trimStart).map String.ofList =
        ["\\select_\x7bx;\n\x7d R ", "\\quit"] ∧
      .complain ∉ s.acts interrupted ∧
      (s.run (interrupted.filter Read.isLine)).console.out = (s.run interrupted).console.out := by
  have hreads : ∀ r ∈ interrupted, r.Passing := by
    simp [interrupted, Read.Passing, Error.isFatal]
  obtain ⟨-, htexts, hcomplain, -, hout, -⟩ :=
    run_cuts_whole ({ conn := { db := {} } } : Session Scripted) {} false interrupted
      Console.unlimited_default hreads
  refine ⟨⟨Console.unlimited_default, hreads⟩, ?_, ?_, hout⟩
  · rw [htexts]
    decide +kernel
  · rw [hcomplain]
    decide +kernel

end Shell

end RelAlgebra
