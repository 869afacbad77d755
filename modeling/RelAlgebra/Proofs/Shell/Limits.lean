import RelAlgebra.Proofs.Session.Cleanup
import RelAlgebra.Proofs.Database.Watched
import RelAlgebra.Proofs.Shell.Acts

/-!
Runs under limits.

A run whose outputs have limits goes along with the run without limits, in the same states, until a
piece does not fit. Then it ends, while the other goes on: what it has written and sent by then is a
first part of what the other writes and sends. A statement is answered to its end before anything is
written of it, so a failure to write leaves no view behind.
-/

namespace RelAlgebra

lemma Database.Keeps.respond {σ : Type} [Database σ] {p : σ → Prop} (h : Database.Keeps p)
    {s : Session σ} (hs : p s.conn.db) (verbose : Bool) (text : List Char) :
    p (Shell.respond verbose text s).2.conn.db := by
  unfold Shell.respond
  cases Statement.parse (String.ofList text) with
  | error e => exact hs
  | ok st =>
    rcases st with (_ | _ | _ | sql) | e
    · exact hs
    · exact hs
    · exact h .listRelations s.conn.db hs
    · exact h (.execCommands sql) s.conn.db hs
    · exact h.evaluate hs e

namespace Scripted

lemma keeps_sqls (sqls : List String) :
    Database.Keeps fun db : Scripted => sqls <+: db.sent.toList := by
  intro r db h
  rw [run_sent]
  exact h.trans (List.prefix_append _ _)

lemma mem_names_of_evaluate {s : Session Scripted} {e : Expr} {name : String}
    (h : name ∈ (s.evaluate e).2.conn.db.names) (hfree : s.conn.db.sticks name = false) :
    name ∈ s.conn.db.names := by
  by_contra hnew
  by_cases hreported : ∃ source, .cleanup name source ∈ (s.evaluate e).1.cleanupErrors
  · obtain ⟨m, correct, standing, -, -, htrail, -⟩ := Session.exists_trail s e
    have hsticks := ((htrail.reported_iff name).mp hreported).2
    simp [hfree] at hsticks
  · obtain ⟨err, -, hsticks, -⟩ := (Session.unreported_iff s e name).mp
      ⟨mem_liveNames.mpr h, fun hlive => hnew (mem_liveNames.mp hlive), hreported⟩
    simp [hfree] at hsticks

end Scripted

namespace Shell

open Scripted

lemma mem_names_of_respond {s : Session Scripted} {verbose : Bool} {text : List Char}
    {name : String} (h : name ∈ (respond verbose text s).2.conn.db.names)
    (hfree : s.conn.db.sticks name = false) : name ∈ s.conn.db.names := by
  unfold respond at h
  cases hparse : Statement.parse (String.ofList text) with
  | error e => simpa [hparse] using h
  | ok st =>
    rw [hparse] at h
    rcases st with (_ | _ | _ | sql) | e
    · exact h
    · exact h
    · have hlive : (listRelations s.conn.db).2.names = s.conn.db.names := by
        unfold listRelations
        split <;> rfl
      exact hlive ▸ h
    · exact h
    · exact mem_names_of_evaluate h hfree

/-! ### The two runs -/

variable (limits : Channel → Option ℕ)

/-- The shells are in the same state, but for the limits, which nothing has exceeded. -/
structure Together (u l : Shell Scripted) : Prop where
  free : u.Free
  plain : u.console.transcript = none
  within : u.console.Within limits
  eq : l = { u with console := u.console.limited limits }

/-- More has been written and sent than when the limits were exceeded. -/
structure Past (cut : Console) (sqls : List String) (session : Session Scripted) (c : Console) :
    Prop where
  unlimited : c.Unlimited
  plain : c.transcript = none
  overflow : Console.Overflow limits c cut
  sent : sqls <+: session.conn.db.sent.toList

/-- The shell with limits has failed to write. -/
structure Parted (u l : Shell Scripted) : Prop where
  failed : l.phase = .failed (.io .writerFull)
  past : u.Meets (Past limits l.console l.session.conn.db.sent.toList)

inductive Beside (u l : Shell Scripted) : Prop
  | together (h : Together limits u l)
  | parted (h : Parted limits u l)

variable {limits} {u l : Shell Scripted}

lemma lasting_past (cut : Console) (sqls : List String) : Lasting (Past limits cut sqls) where
  echo h t ht := by simp [h.plain] at ht
  write h ps := by
    obtain ⟨c', hput, hc', hsink, ht⟩ := h.unlimited.putAll ps
    rw [hput]
    refine ⟨hc', ht h.plain, h.overflow.mono fun ch => ?_, h.sent⟩
    rw [hsink, Sink.toList_held_push]
    exact List.prefix_append _ _
  respond h verbose text :=
    ⟨h.unlimited, h.plain, h.overflow, (keeps_sqls sqls).respond h.sent verbose text⟩
  warn h text := ⟨h.unlimited, h.plain, h.overflow, h.sent⟩

lemma Parted.isReading (h : Parted limits u l) : l.isReading = false := by
  simp [Shell.isReading, h.failed]

lemma Together.isReading (h : Together limits u l) : l.isReading = u.isReading := by
  rw [h.eq]
  rfl

/-- After the shells have parted, what is done while a shell is reading is done by one of them
alone. -/
lemma Beside.next {f : Shell Scripted → Shell Scripted} (h : Beside limits u l)
    (htogether : Together limits u l → Beside limits (f u) (f l))
    (hlasting : ∀ {P : Session Scripted → Console → Prop} {s : Shell Scripted},
      Lasting P → s.Meets P → (f s).Meets P) :
    Beside limits (if u.isReading then f u else u) (if l.isReading then f l else l) := by
  cases h with
  | together h =>
    rw [h.isReading]
    split
    · exact htogether h
    · exact .together h
  | parted h =>
    rw [h.isReading, if_neg Bool.false_ne_true]
    refine .parted ⟨h.failed, ?_⟩
    split
    · exact hlasting (lasting_past _ _) h.past
    · exact h.past

namespace Together

lemma emit (h : Together limits u l) (ps : List Piece) :
    Beside limits (u.emit ps) (l.emit ps) := by
  obtain ⟨hfree, hplain, hwithin, rfl⟩ := h
  obtain ⟨c, hput, hc, hsink, ht⟩ := hfree.holds.putAll ps
  have hemit : u.emit ps = { u with console := c } := by rw [Shell.emit, hput]
  rw [hemit]
  rcases Console.putAll_limited hfree.holds hplain hwithin ps hput with
    ⟨hfits, hlimited⟩ | ⟨cut, hcut, hover⟩
  · refine .together ⟨⟨hfree.silent, hc⟩, ht hplain, hfits, ?_⟩
    simp only [Shell.emit, hlimited]
  · simp only [Shell.emit, hcut]
    exact .parted ⟨rfl, hfree.silent, hc, ht hplain, hover, List.prefix_rfl⟩

lemma bye (h : Together limits u l) (ps : List Piece) : Beside limits (u.bye ps) (l.bye ps) := by
  unfold Shell.bye Shell.close
  refine (h.emit _).next (f := fun s => { s with phase := .ended }) (fun h => ?_) fun _ h => ?_
  · obtain ⟨hfree, hplain, hwithin, heq⟩ := h
    exact .together ⟨⟨hfree.silent, hfree.holds⟩, hplain, hwithin, by rw [heq]⟩
  · exact ⟨h.silent, h.holds⟩

lemma answer (h : Together limits u l) (text : List Char) :
    Beside limits (u.answer text) (l.answer text) := by
  obtain ⟨hfree, hplain, hwithin, rfl⟩ := h
  have hanswered (session : Session Scripted) : Together limits { u with session }
      { u with session, console := u.console.limited limits } :=
    ⟨hfree.withSession session, hplain, hwithin, rfl⟩
  simp only [Shell.answer]
  split
  · exact (hanswered _).bye _
  · exact (hanswered _).emit _

lemma answerAll (h : Together limits u l) (texts : List (List Char)) :
    Beside limits (u.answerAll texts) (l.answerAll texts) := by
  induction texts generalizing u l with
  | nil => exact .together h
  | cons text texts ih =>
    rw [Shell.answerAll, Shell.answerAll]
    split
    · exact ih h
    · exact (h.answer text).next (f := fun s => s.answerAll texts) ih fun hP hs =>
        hP.answerAll hs texts

lemma take (h : Together limits u l) (line : String) :
    Beside limits (u.take line) (l.take line) := by
  have hpending : l.pending = u.pending := by rw [h.eq]
  unfold Shell.take
  rw [hpending]
  dsimp only
  refine (h.answerAll _).next
    (f := fun s => settle { s with pending := _, lineNumber := s.lineNumber + 1 })
    (fun h => ?_) fun _ h => ?_
  · obtain ⟨hfree, hplain, hwithin, heq⟩ := h
    rw [heq]
    unfold settle
    dsimp only
    split <;> exact .together ⟨⟨hfree.silent, hfree.holds⟩, hplain, hwithin, rfl⟩
  · unfold settle
    split <;> exact ⟨h.silent, h.holds⟩

lemma recover (h : Together limits u l) (e : Error) :
    Beside limits (u.recover e) (l.recover e) := by
  obtain ⟨hfree, hplain, hwithin, rfl⟩ := h
  unfold Shell.recover
  split
  · exact .together ⟨⟨hfree.silent, hfree.holds⟩, hplain, hwithin, rfl⟩
  · refine Together.emit ?_ _
    exact ⟨hfree.withSession _, hplain, hwithin, rfl⟩

lemma finish (h : Together limits u l) : Beside limits u.finish l.finish := by
  obtain ⟨hfree, hplain, hwithin, rfl⟩ := h
  unfold Shell.finish
  split
  · exact Together.bye ⟨hfree, hplain, hwithin, rfl⟩ []
  · refine Together.bye ?_ _
    exact ⟨hfree.withSession _, hplain, hwithin, rfl⟩

lemma heed (h : Together limits u l) (r : Read) : Beside limits (u.heed r) (l.heed r) := by
  have hplain : l.console.transcript = none := by
    rw [h.eq]
    exact h.plain
  rw [Shell.heed, Shell.heed, echoLine_of_plain h.plain, echoLine_of_plain hplain]
  cases r with
  | line text => exact h.take text
  | endOfInput => exact h.finish
  | failed e => exact h.recover e

lemma read (h : Together limits u l) (r : Read) : Beside limits (u.read r) (l.read r) := by
  have hask : Together limits u.ask l.ask := by
    obtain ⟨hfree, hplain, hwithin, rfl⟩ := h
    rw [ask_of_silent hfree.silent, ask_of_silent (by exact hfree.silent)]
    exact ⟨⟨hfree.silent, hfree.holds⟩, hplain, hwithin, rfl⟩
  exact (Beside.together hask).next (f := fun s => s.heed r) (fun h => h.heed r)
    fun hP hs => hP.heed hs r

end Together

lemma Beside.run (h : Beside limits u l) (reads : List Read) :
    Beside limits (u.run reads) (l.run reads) := by
  induction reads generalizing u l with
  | nil =>
    exact h.next (f := fun s => s.read .endOfInput) (fun h => h.read _) fun hP hs => hP.read hs _
  | cons r reads ih =>
    exact h.next (f := fun s => (s.read r).run reads) (fun h => ih (h.read r)) fun hP hs =>
      hP.run (hP.read hs r) reads

/-! ### Views -/

lemma Console.transcript_putAll {c : Console} (h : c.transcript = none) (ps : List Piece) :
    (c.putAll ps).2.transcript = none := by
  induction ps generalizing c with
  | nil => exact h
  | cons p ps ih =>
    have hput : (c.put p).2.transcript = none := by
      simp only [Console.put, h, Console.transcript_withSink]
    rw [Console.putAll]
    split
    · next heq => exact ih (by rwa [heq] at hput)
    · next heq => rwa [heq] at hput

/-- The rules are those of a database, and every view that none of them holds on to was there. -/
structure Tidy (db : Scripted) (session : Session Scripted) (c : Console) : Prop where
  plain : c.transcript = none
  script : session.conn.db.script = db.script
  views : ∀ name ∈ session.conn.db.names, db.sticks name = false → name ∈ db.names

lemma lasting_tidy (db : Scripted) : Lasting (Tidy db) where
  echo h t ht := by simp [h.plain] at ht
  write h ps := ⟨Console.transcript_putAll h.plain ps, h.script, h.views⟩
  respond h verbose text := by
    refine ⟨h.plain, (keeps_script db.script).respond h.script verbose text, ?_⟩
    intro name hn hfree
    have hfree' := (congrFun (sticks_congr h.script) name).trans hfree
    exact h.views name (mem_names_of_respond hn hfree') hfree
  warn h text := ⟨h.plain, h.script, h.views⟩

/-- **A run under limits is the run without them as far as its outputs fit**, and a failure to write
leaves no view behind that can be dropped. -/
theorem run_within_limits (session : Session Scripted) (verbose : Bool)
    (limits : Channel → Option ℕ) (reads : List Read) :
    let free := ({ session, verbose } : Shell Scripted).run reads
    let bound := ({ session, verbose, console := Console.limited limits {} } : Shell Scripted).run
      reads
    (free.console.Within limits →
      bound = { free with console := free.console.limited limits }) ∧
      (¬ free.console.Within limits →
        bound.phase = .failed (.io .writerFull) ∧
        (∃ ch, ∃ n ∈ limits ch, (bound.console.sink ch).held.size = n ∧
          n < (free.console.sink ch).held.size) ∧
        (∀ ch, (bound.console.sink ch).held.toList <+: (free.console.sink ch).held.toList) ∧
        bound.session.conn.db.sent.toList <+: free.session.conn.db.sent.toList) ∧
      ∀ name ∈ bound.session.conn.db.liveNames, session.conn.db.sticks name = false →
        name ∈ session.conn.db.liveNames := by
  intro free bound
  have hstart : Together limits ({ session, verbose } : Shell Scripted)
      { session, verbose, console := Console.limited limits {} } :=
    ⟨⟨rfl, Console.unlimited_default⟩, rfl, fun ch n _ => by cases ch <;> exact n.zero_le, rfl⟩
  have htidy := (lasting_tidy session.conn.db).run
    (s := { session, verbose, console := Console.limited limits {} })
    ⟨rfl, rfl, rfl, fun name hn _ => hn⟩ reads
  refine ⟨fun hwithin => ?_, fun hexceeds => ?_, fun name hn hfree => ?_⟩
  · cases (Beside.together hstart).run reads with
    | together h => exact h.eq
    | parted h => exact absurd hwithin h.past.holds.overflow.not_within
  · cases (Beside.together hstart).run reads with
    | together h => exact absurd h.within hexceeds
    | parted h =>
      have hpast := h.past.holds
      exact ⟨h.failed, hpast.overflow.full, hpast.overflow.isPrefix, hpast.sent⟩
  · exact mem_liveNames.mpr (htidy.holds.views name (mem_liveNames.mp hn) hfree)

def narrow : Channel → Option ℕ
  | .out => some 10
  | .err => none

/-- The table of a relation does not fit, but its view has been dropped by then. -/
theorem narrow_run_stops :
    let bound := ({ session := { conn := { db := {} } }, console := Console.limited narrow {} } :
      Shell Scripted).run [.line "R;", .line "S;"]
    bound.phase = .failed (.io .writerFull) ∧ bound.console.out.held.size = 10 ∧
      bound.session.conn.db.liveNames = [] := by
  obtain ⟨-, hexceeds, hviews⟩ :=
    run_within_limits { conn := { db := {} } } false narrow [.line "R;", .line "S;"]
  have hlong : ¬ (({ session := { conn := { db := {} } } } : Shell Scripted).run
      [.line "R;", .line "S;"]).console.Within narrow := by
    intro hwithin
    have hout := hwithin .out 10 rfl
    revert hout
    decide +kernel
  obtain ⟨hphase, ⟨ch, n, hn, hfull, -⟩, -⟩ := hexceeds hlong
  refine ⟨hphase, ?_, List.eq_nil_iff_forall_not_mem.mpr fun name hname => ?_⟩
  · cases ch with
    | out =>
      cases hn
      exact hfull
    | err => cases hn
  · have hnone := hviews name hname rfl
    simp [liveNames, Text.sorted] at hnone

end Shell

end RelAlgebra
