import Mathlib
import RelAlgebra.Shell

/-!
What a shell keeps.

A shell changes its session when it answers a statement or logs a warning, and its outputs when it
writes. A property of both that these keep holds at the end of every run.
-/

namespace RelAlgebra.Shell

variable {σ : Type} [Database σ]

/-- Neither writing nor copying a line nor answering nor logging ends the property. -/
structure Lasting (P : Session σ → Console → Prop) : Prop where
  write : ∀ {session c}, P session c → ∀ ps, P session (c.putAll ps).2
  echo : ∀ {session c}, P session c → ∀ transcript ∈ c.transcript, ∀ prompt r,
    P session { c with transcript := some (echo prompt transcript r).2 }
  respond : ∀ {session c}, P session c → ∀ verbose text, P (respond verbose text session).2 c
  warn : ∀ {session c}, P session c → ∀ text,
    P { session with conn := session.conn.warn text } c

/-- The shell has the property, and shows no prompts. -/
structure Meets (P : Session σ → Console → Prop) (s : Shell σ) : Prop where
  silent : s.showsPrompt = false
  holds : P s.session s.console

omit [Database σ] in
lemma ask_of_silent {s : Shell σ} (h : s.showsPrompt = false) :
    s.ask = { s with prompts := s.prompts.push s.prompt } := by
  simp only [ask, h, Bool.false_eq_true, if_false]

omit [Database σ] in
lemma echoLine_of_plain {s : Shell σ} (h : s.console.transcript = none) (r : Read) :
    s.echoLine r = (r, s) := by
  rw [echoLine, h]

omit [Database σ] in
lemma Meets.close {P : Session σ → Console → Prop} {s : Shell σ} (h : s.Meets P) :
    s.close.Meets P := by
  unfold Shell.close
  split
  · exact ⟨h.silent, h.holds⟩
  · exact h

namespace Lasting

variable {P : Session σ → Console → Prop} (hP : Lasting P) {s : Shell σ}

include hP

lemma emit (h : s.Meets P) (ps : List Piece) : (s.emit ps).Meets P := by
  have hwrite := hP.write h.holds ps
  unfold Shell.emit
  split
  · next hput => exact ⟨h.silent, by rwa [hput] at hwrite⟩
  · next hput => exact ⟨h.silent, by rwa [hput] at hwrite⟩

lemma bye (h : s.Meets P) (ps : List Piece) : (s.bye ps).Meets P := (hP.emit h _).close

lemma answer (h : s.Meets P) (text : List Char) : (s.answer text).Meets P := by
  have hrespond : Meets P { s with session := (Shell.respond s.verbose text s.session).2 } :=
    ⟨h.silent, hP.respond h.holds s.verbose text⟩
  simp only [Shell.answer]
  split
  · exact hP.bye hrespond _
  · exact hP.emit hrespond _

lemma answerAll (h : s.Meets P) (texts : List (List Char)) : (s.answerAll texts).Meets P := by
  induction texts generalizing s with
  | nil => exact h
  | cons text texts ih =>
    rw [Shell.answerAll]
    split
    · exact ih h
    · dsimp only
      split
      · exact ih (hP.answer h text)
      · exact hP.answer h text

lemma take (h : s.Meets P) (line : String) : (s.take line).Meets P := by
  have hall := hP.answerAll h (Statement.cutAll (s.pending ++ line.toList ++ ['\n'])).1
  simp only [Shell.take]
  split
  · unfold settle
    split <;> exact ⟨hall.silent, hall.holds⟩
  · exact hall

lemma recover (h : s.Meets P) (e : Error) : (s.recover e).Meets P := by
  unfold Shell.recover
  split
  · exact ⟨h.silent, h.holds⟩
  · refine hP.emit ?_ _
    exact ⟨h.silent, hP.warn h.holds _⟩

lemma finish (h : s.Meets P) : s.finish.Meets P := by
  unfold Shell.finish
  split
  · exact hP.bye h []
  · refine hP.bye ?_ _
    exact ⟨h.silent, hP.warn h.holds _⟩

lemma heed (h : s.Meets P) (r : Read) : (s.heed r).Meets P := by
  have hecho : (s.echoLine r).2.Meets P := by
    unfold echoLine
    split
    · exact h
    · next transcript ht => exact ⟨h.silent, hP.echo h.holds transcript ht s.prompt r⟩
  unfold Shell.heed
  split
  · next heq => exact hP.take (by rwa [heq] at hecho) _
  · next heq => exact hP.finish (by rwa [heq] at hecho)
  · next heq => exact hP.recover (by rwa [heq] at hecho) _

lemma read (h : s.Meets P) (r : Read) : (s.read r).Meets P := by
  have hask : s.ask.Meets P := by
    rw [ask_of_silent h.silent]
    exact ⟨h.silent, h.holds⟩
  simp only [Shell.read]
  split
  · exact hP.heed hask r
  · exact hask

lemma run (h : s.Meets P) (reads : List Read) : (s.run reads).Meets P := by
  induction reads generalizing s with
  | nil =>
    rw [Shell.run]
    split
    · exact hP.read h .endOfInput
    · exact h
  | cons r reads ih =>
    rw [Shell.run]
    split
    · exact ih (hP.read h r)
    · exact h

end Lasting

end RelAlgebra.Shell
