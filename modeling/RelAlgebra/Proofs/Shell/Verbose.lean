import RelAlgebra.Proofs.Shell.Dialogue
import RelAlgebra.Proofs.Shell.Ending
import RelAlgebra.Proofs.Text.Encoding

/-!
What a verbose shell adds.

Two shells, of which one is verbose, run over the same input. Neither the lines they ask for nor
the acts they perform depend on what they write, so they go through the same acts. For each act the
verbose shell writes what the other one writes, after the trees of the evaluation if the act
answered an expression. So their outputs are made of the same passages, and all else is the same.
-/

namespace RelAlgebra.Shell

open Statement

variable {σ : Type} [Database σ]

/-! ### What both shells ask for -/

/-- Both shells ask for the next line alike, if they do. -/
structure Abreast (a b : Shell σ) : Prop where
  reading : a.isReading = b.isReading
  dialogue : a.dialogue = b.dialogue

namespace Abreast

variable {a b : Shell σ}

omit [Database σ] in
lemma pending (h : Abreast a b) : a.pending = b.pending := (dialogue_eq_iff.mp h.dialogue).1

lemma take (h : Abreast a b) (ha : a.Free) (hb : b.Free) (hr : a.isReading = true)
    (line : String) : Abreast (a.take line) (b.take line) := by
  have hrb : b.isReading = true := h.reading.symm.trans hr
  have hreading : (a.take line).isReading = (b.take line).isReading := by
    rw [Bool.eq_iff_iff, ha.isReading_take hr, hb.isReading_take hrb, h.pending]
  refine ⟨hreading, ?_⟩
  obtain ⟨hpending, hnumber, hprompts⟩ := dialogue_eq_iff.mp h.dialogue
  cases hgo : (a.take line).isReading with
  | true => rw [dialogue_take hgo, dialogue_take (hreading ▸ hgo), hpending, hnumber, hprompts]
  | false =>
    rw [dialogue_take_of_ended hgo, dialogue_take_of_ended (hreading ▸ hgo), h.dialogue]

lemma meet (h : Abreast a b) (ha : a.Free) (hb : b.Free) (hr : a.isReading = true) (r : Read) :
    Abreast (a.meet r) (b.meet r) := by
  have hrb : b.isReading = true := h.reading.symm.trans hr
  cases r with
  | line text => exact h.take ha hb hr text
  | endOfInput =>
    refine ⟨?_, ?_⟩
    · have hend {s : Shell σ} (hs : s.Free) (hr : s.isReading = true) :
          s.finish.isReading = false := by
        simp [isReading, (hs.departed_finish hr).phase]
      exact (hend ha hr).trans (hend hb hrb).symm
    · exact (dialogue_finish a).trans (h.dialogue.trans (dialogue_finish b).symm)
  | failed e =>
    refine ⟨?_, ?_⟩
    · cases he : e.isFatal with
      | true => simp [Shell.meet, recover, he, isReading]
      | false =>
        exact (ha.isReading_recover he).trans (h.reading.trans (hb.isReading_recover he).symm)
    · exact (dialogue_recover a e).trans (h.dialogue.trans (dialogue_recover b e).symm)

lemma read (h : Abreast a b) (ha : a.Free) (hb : b.Free) (hr : a.isReading = true) (r : Read) :
    Abreast (a.read r) (b.read r) := by
  have hrb : b.isReading = true := h.reading.symm.trans hr
  obtain ⟨c, hc, -, hread⟩ := ha.read_asked hr r
  obtain ⟨c', hc', -, hread'⟩ := hb.read_asked hrb r
  obtain ⟨hpending, hnumber, hprompts⟩ := dialogue_eq_iff.mp h.dialogue
  have hasked : Abreast { a with prompts := a.prompts.push a.prompt, console := c }
      { b with prompts := b.prompts.push b.prompt, console := c' } :=
    ⟨h.reading, dialogue_eq_iff.mpr ⟨hpending, hnumber, by simp [prompt, hnumber, hprompts]⟩⟩
  rw [hread, hread']
  refine hasked.meet ⟨ha.silent, hc⟩ ⟨hb.silent, hc'⟩ ?_ r
  exact hr

lemma run (h : Abreast a b) (ha : a.Free) (hb : b.Free) (reads : List Read) :
    a.acts reads = b.acts reads ∧ Abreast (a.run reads) (b.run reads) := by
  have hread {a b : Shell σ} (h : Abreast a b) (ha : a.Free) (hb : b.Free)
      (hr : a.isReading = true) (r : Read) :
      a.actsAt r = b.actsAt r ∧ Abreast (a.read r) (b.read r) :=
    ⟨hb.actsAt_congr ha (h.reading.symm.trans hr) hr h.pending r, h.read ha hb hr r⟩
  induction reads generalizing a b with
  | nil =>
    rw [acts, acts, Shell.run, Shell.run, ← h.reading]
    split
    · next hr => exact hread h ha hb hr .endOfInput
    · exact ⟨rfl, h⟩
  | cons r reads ih =>
    rw [acts, acts, Shell.run, Shell.run, ← h.reading]
    split
    · next hr =>
      obtain ⟨hat, habreast⟩ := hread h ha hb hr r
      obtain ⟨hacts, hrun⟩ :=
        ih habreast (lasting_unlimited.read ha r) (lasting_unlimited.read hb r)
      exact ⟨congrArg₂ _ hat hacts, hrun⟩
    · exact ⟨rfl, h⟩

end Abreast

/-! ### What the acts write -/

/-- The trees of an evaluation as they are shown: the parsed one, and the validated one if there is
one. -/
def treeBlock (e : Evaluation) : String :=
  "Parsed query:\n" ++ e.parsedTree ++ "=====\n" ++
    e.validatedTree.elim "" fun tree => "Validated query:\n" ++ tree ++ "=====\n"

/-- What an act comes to if it answers an expression. -/
def Act.evaluation? (session : Session σ) : Act → Option Evaluation
  | answer text =>
    match Statement.parse (String.ofList text) with
    | .ok (.expr e) => some (session.evaluate e).1
    | _ => none
  | _ => none

/-- What comes of an act: the evaluation if it answered an expression, and the bytes that a shell
which is not verbose adds to its output. -/
structure Passage where
  evaluation? : Option Evaluation
  text : List UInt8

/-- The bytes that a verbose shell adds to its output. -/
def Passage.verbose (p : Passage) : List UInt8 :=
  (p.evaluation?.toList.flatMap fun e => Text.bytes (treeBlock e)) ++ p.text

def passages (s : Shell σ) : List Act → List Passage
  | [] => []
  | act :: acts =>
    ⟨act.evaluation? s.session,
        (s.perform act).console.out.held.toList.drop s.console.out.held.size⟩ ::
      (s.perform act).passages acts

lemma bytesOn_out (texts : List String) :
    bytesOn .out (outPieces texts) = texts.flatMap Text.bytes := by
  simp [bytesOn, outPieces, List.filter_map, Function.comp_def, List.flatMap_map]

lemma bytesOn_err (texts : List String) : bytesOn .err (outPieces texts) = [] := by
  simp [bytesOn, outPieces, List.filter_map, Function.comp_def]

lemma bytes_treeBlock (e : Evaluation) :
    Text.bytes (treeBlock e) = (treeTexts e).flatMap Text.bytes := by
  unfold treeBlock treeTexts
  cases e.validatedTree <;> simp [Text.bytes_append]

lemma respond_verbose (text : List Char) (s : Session σ) :
    (respond true text s).2 = (respond false text s).2 ∧
      (respond true text s).1.quit = (respond false text s).1.quit ∧
      (respond true text s).1.output =
        outPieces (((Act.answer text).evaluation? s).toList.flatMap treeTexts) ++
          (respond false text s).1.output := by
  unfold respond Act.evaluation?
  dsimp only
  cases Statement.parse (String.ofList text) with
  | error e => exact ⟨rfl, rfl, rfl⟩
  | ok st =>
    rcases st with (_ | _ | _ | sql) | e
    · exact ⟨rfl, rfl, rfl⟩
    · exact ⟨rfl, rfl, rfl⟩
    · exact ⟨rfl, rfl, rfl⟩
    · exact ⟨rfl, rfl, rfl⟩
    · refine ⟨rfl, rfl, ?_⟩
      simp [evaluationReport]

/-- The second shell is verbose and the first one is not, and they agree on all but the output,
where they have written these bytes. -/
structure Twin (a b : Shell σ) (x y : List UInt8) : Prop where
  session : a.session = b.session
  phase : a.phase = b.phase
  err : a.console.err = b.console.err
  quiet : a.verbose = false
  loud : b.verbose = true
  out : a.console.out.held.toList = x
  shown : b.console.out.held.toList = y

namespace Twin

variable {a b : Shell σ} {x y : List UInt8}

section

omit [Database σ]

lemma onSession (h : Twin a b x y) (f : Session σ → Session σ) :
    Twin { a with session := f a.session } { b with session := f b.session } x y :=
  ⟨congrArg f h.session, h.phase, h.err, h.quiet, h.loud, h.out, h.shown⟩

lemma emit (h : Twin a b x y) (ha : a.Free) (hb : b.Free) (texts : List String)
    (ps : List Piece) :
    Twin (a.emit ps) (b.emit (outPieces texts ++ ps)) (x ++ bytesOn .out ps)
      (y ++ (texts.flatMap Text.bytes ++ bytesOn .out ps)) := by
  obtain ⟨c, hea, -, hsink, -⟩ := ha.emit_eq ps
  obtain ⟨c', heb, -, hsink', -⟩ := hb.emit_eq (outPieces texts ++ ps)
  have hout : c.out = a.console.out.push (bytesOn .out ps) := hsink .out
  have hout' : c'.out = b.console.out.push (bytesOn .out (outPieces texts ++ ps)) := hsink' .out
  have herr : c.err = a.console.err.push (bytesOn .err ps) := hsink .err
  have herr' : c'.err = b.console.err.push (bytesOn .err (outPieces texts ++ ps)) := hsink' .err
  rw [bytesOn_append, bytesOn_out] at hout'
  rw [bytesOn_append, bytesOn_err, List.nil_append] at herr'
  rw [hea, heb]
  refine ⟨h.session, h.phase, ?_, h.quiet, h.loud, ?_, ?_⟩
  · rw [herr, herr', h.err]
  · rw [hout, Sink.toList_held_push, h.out]
  · rw [hout', Sink.toList_held_push, h.shown]

lemma close (h : Twin a b x y) : Twin a.close b.close x y := by
  have hreading : a.isReading = b.isReading := by rw [isReading, isReading, h.phase]
  unfold Shell.close
  rw [hreading]
  split
  · exact ⟨h.session, rfl, h.err, h.quiet, h.loud, h.out, h.shown⟩
  · exact h

lemma bye (h : Twin a b x y) (ha : a.Free) (hb : b.Free) (texts : List String)
    (ps : List Piece) :
    ∃ t, Twin (a.bye ps) (b.bye (outPieces texts ++ ps)) (x ++ t)
      (y ++ (texts.flatMap Text.bytes ++ t)) := by
  refine ⟨bytesOn .out (ps ++ outPieces byeTexts), ?_⟩
  rw [Shell.bye, Shell.bye, List.append_assoc]
  exact (h.emit ha hb texts _).close

lemma recover (h : Twin a b x y) (ha : a.Free) (hb : b.Free) (e : Error) :
    ∃ t, Twin (a.recover e) (b.recover e) (x ++ t) (y ++ t) := by
  unfold Shell.recover
  split
  · refine ⟨[], ?_⟩
    rw [List.append_nil, List.append_nil]
    exact ⟨h.session, rfl, h.err, h.quiet, h.loud, h.out, h.shown⟩
  · have hwarned (text : String) := h.onSession fun s => { s with conn := s.conn.warn text }
    exact ⟨_, (hwarned _).emit (ha.withSession _) (hb.withSession _) [] _⟩

lemma complain (h : Twin a b x y) (ha : a.Free) (hb : b.Free) :
    ∃ t, Twin a.complain b.complain (x ++ t) (y ++ t) := by
  have hwarned (text : String) := h.onSession fun s => { s with conn := s.conn.warn text }
  exact ⟨_, (hwarned _).emit (ha.withSession _) (hb.withSession _) [] _⟩

end

lemma answer (h : Twin a b x y) (ha : a.Free) (hb : b.Free) (text : List Char) :
    ∃ t, Twin (a.answer text) (b.answer text) (x ++ t)
      (y ++ Passage.verbose ⟨(Act.answer text).evaluation? a.session, t⟩) := by
  obtain ⟨hsession, hquit, houtput⟩ := respond_verbose text b.session
  have hbytes (es : List Evaluation) : (es.flatMap fun e => Text.bytes (treeBlock e)) =
      (es.flatMap treeTexts).flatMap Text.bytes := by
    simp [List.flatMap_assoc, bytes_treeBlock]
  have hquiet : respond a.verbose text b.session = respond false text b.session := by rw [h.quiet]
  have hloud : respond b.verbose text b.session = respond true text b.session := by rw [h.loud]
  -- the database is asked the same, as the flag is read only after it has answered
  have hanswered := h.onSession fun _ => (respond false text b.session).2
  simp only [Shell.answer, h.session, hquiet, hloud, hsession, hquit, houtput, Passage.verbose,
    hbytes]
  split
  · exact hanswered.bye (ha.withSession _) (hb.withSession _) _ _
  · exact ⟨_, hanswered.emit (ha.withSession _) (hb.withSession _) _ _⟩

lemma perform (h : Twin a b x y) (ha : a.Free) (hb : b.Free) (act : Act) :
    ∃ t, Twin (a.perform act) (b.perform act) (x ++ t)
      (y ++ Passage.verbose ⟨act.evaluation? a.session, t⟩) := by
  cases act with
  | answer text => exact h.answer ha hb text
  | report e => exact h.recover ha hb e
  | complain => exact h.complain ha hb
  | leave => exact h.bye ha hb [] []

lemma foldl_perform (h : Twin a b x y) (ha : a.Free) (hb : b.Free) (acts : List Act) :
    Twin (acts.foldl Shell.perform a) (acts.foldl Shell.perform b)
      (x ++ (a.passages acts).flatMap Passage.text)
      (y ++ (a.passages acts).flatMap Passage.verbose) := by
  induction acts generalizing a b x y with
  | nil => simpa [passages] using h
  | cons act acts ih =>
    obtain ⟨t, ht⟩ := h.perform ha hb act
    -- outputs only grow, so the passage of the act is what it added
    have hadded : (a.perform act).console.out.held.toList.drop a.console.out.held.size = t := by
      rw [ht.out, ← Array.length_toList, h.out, List.drop_left]
    rw [passages, hadded, List.flatMap_cons, List.flatMap_cons, ← List.append_assoc,
      ← List.append_assoc]
    exact ih ht (ha.perform act) (hb.perform act)

end Twin

/-! ### Runs -/

lemma Free.core_perform {s : Shell σ} (h : s.Free) (act : Act) :
    (s.perform act).core = s.core.perform act := by
  cases act with
  | answer text => exact h.core_answer text
  | report e => exact h.core_recover e
  | complain => exact h.core_complain
  | leave => exact h.core_bye []

lemma Free.passages_core {s : Shell σ} (h : s.Free) (acts : List Act) :
    s.core.passages acts = s.passages acts := by
  induction acts generalizing s with
  | nil => rfl
  | cons act acts ih =>
    rw [passages, passages, ← ih (h.perform act), h.core_perform, ← h.core_perform]
    rfl

/-- **A verbose shell shows the trees of every evaluation, and does nothing else that another one
does not do.** Both go through the same acts, give the same prompts, and end with the same session
and in the same way. The output of the one is made of the texts that are added for each act, and
that of the verbose one of the same texts, each after the trees of what was evaluated. -/
theorem run_verbose_adds_trees (session : Session σ) (console : Console) (reads : List Read)
    (hconsole : console.Unlimited) :
    let quiet : Shell σ := { session, console }
    let loud : Shell σ := { session, console, verbose := true }
    let added := quiet.passages (quiet.acts reads)
    (quiet.run reads).core = (quiet.acts reads).foldl perform quiet.core ∧
      loud.acts reads = quiet.acts reads ∧
      (loud.run reads).prompts = (quiet.run reads).prompts ∧
      (loud.run reads).session = (quiet.run reads).session ∧
      (loud.run reads).phase = (quiet.run reads).phase ∧
      (loud.run reads).console.err = (quiet.run reads).console.err ∧
      (quiet.run reads).console.out.held.toList =
        console.out.held.toList ++ added.flatMap Passage.text ∧
      (loud.run reads).console.out.held.toList =
        console.out.held.toList ++ added.flatMap Passage.verbose := by
  intro quiet loud added
  have hquiet : quiet.Free := ⟨rfl, hconsole⟩
  have hloud : loud.Free := ⟨rfl, hconsole⟩
  obtain ⟨hacts, habreast⟩ := Abreast.run (a := quiet) (b := loud) ⟨rfl, rfl⟩ hquiet hloud reads
  have hstart : Twin quiet.core loud.core console.out.held.toList console.out.held.toList :=
    ⟨rfl, rfl, rfl, rfl, rfl, rfl, rfl⟩
  have htwin : Twin (quiet.run reads).core (loud.run reads).core
      (console.out.held.toList ++ added.flatMap Passage.text)
      (console.out.held.toList ++ added.flatMap Passage.verbose) := by
    have hadded : added = quiet.core.passages (quiet.acts reads) := (hquiet.passages_core _).symm
    rw [hquiet.core_run, hloud.core_run, ← hacts, hadded]
    exact hstart.foldl_perform hquiet.core hloud.core _
  exact ⟨hquiet.core_run reads, hacts.symm, (dialogue_eq_iff.mp habreast.dialogue).2.2.symm,
    htwin.session.symm, htwin.phase.symm, htwin.err.symm, htwin.out, htwin.shown⟩

/-- An expression that is evaluated, one that is refused, a command, and a statement without an
end. -/
def mixed : List Read := [.line "R; \\select_\x7ba > 1\x7d R;", .line "\\list;", .line "S"]

theorem mixed_verbose_adds_trees :
    let session : Session Scripted :=
      { conn.db.script.failCreate := [("a > 1", { message := "refused" })] }
    let quiet : Shell Scripted := { session }
    let loud : Shell Scripted := { session, verbose := true }
    let added := quiet.passages (quiet.acts mixed)
    Console.Unlimited {} ∧
      (added.map fun p => p.evaluation?.map fun e => e.validatedTree.isSome) =
        [some true, some false, none, none, none] ∧
      (loud.run mixed).session = (quiet.run mixed).session ∧
      (quiet.run mixed).console.out.held.toList = added.flatMap Passage.text ∧
      (loud.run mixed).console.out.held.toList = added.flatMap Passage.verbose := by
  intro session quiet loud added
  obtain ⟨-, -, -, hsession, -, -, hquiet, hloud⟩ :=
    run_verbose_adds_trees session {} mixed Console.unlimited_default
  exact ⟨Console.unlimited_default, by decide +kernel, hsession,
    hquiet.trans (List.nil_append _), hloud.trans (List.nil_append _)⟩

end RelAlgebra.Shell
