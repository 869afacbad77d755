import RelAlgebra.Shell.Sink
import RelAlgebra.Text.Cluster

/-!
Where lines come from. The lines of a text are delivered without their ends; an echo copies each
line, with the prompt it answers, to a transcript.
-/

namespace RelAlgebra.Shell

/-- What asking a source for a line gives. -/
inductive Read where
  | line (text : String)
  | endOfInput
  | failed (e : Error)
  deriving DecidableEq, Repr

/-- Which line ends are taken off a line. -/
inductive LineEnds where
  /-- All newlines and carriage returns at the end. -/
  | all
  /-- One newline and the carriage return before it, which end a line that was typed. -/
  | one
  deriving DecidableEq, Repr

/-- The line without its end. -/
def LineEnds.strip : LineEnds → List Char → List Char
  | all, cs => (cs.reverse.dropWhile fun c => c == '\n' || c == '\r').reverse
  | one, cs =>
    match cs.reverse with
    | '\n' :: '\r' :: rest => rest.reverse
    | '\n' :: rest => rest.reverse
    | _ => cs

/-- The line that is delivered. Backspaces of a line that was typed have taken effect. -/
def LineEnds.line : LineEnds → List Char → List Char
  | all, cs => all.strip cs
  | one, cs => Text.takenBack (one.strip cs)

/-- The bytes up to the first newline, which is kept, and the rest. -/
def firstLine : List UInt8 → List UInt8 × List UInt8
  | [] => ([], [])
  | b :: bs =>
    if b = 10 then ([b], bs)
    else
      let (line, rest) := firstLine bs
      (b :: line, rest)

/-- The line of some bytes, which have to be a text. -/
def readOf (ends : LineEnds) (bs : List UInt8) : Read :=
  match Text.ofBytes? bs with
  | some text => .line (String.ofList (ends.line text.toList))
  | none => .failed (.io .invalidUtf8)

theorem length_firstLine (b : UInt8) (bs : List UInt8) :
    (firstLine (b :: bs)).2.length ≤ bs.length := by
  induction bs generalizing b with
  | nil => simp only [firstLine]; split <;> simp
  | cons c cs ih =>
    rw [firstLine]
    split
    · simp
    · exact Nat.le_succ_of_le (ih c)

/-- All lines of some bytes. -/
def readsOf (ends : LineEnds) : List UInt8 → List Read
  | [] => []
  | b :: bs =>
    readOf ends (firstLine (b :: bs)).1 :: readsOf ends (firstLine (b :: bs)).2
termination_by bs => bs.length
decreasing_by exact Nat.lt_succ_of_le (length_firstLine b bs)

/-- Reads the bytes that are left. -/
structure LineReader where
  ends : LineEnds := .all
  left : List UInt8

/-- The next line; at the end there is none, however often it is asked for. -/
def LineReader.next (r : LineReader) : Read × LineReader :=
  match r.left with
  | [] => (.endOfInput, r)
  | b :: bs =>
    let (line, left) := firstLine (b :: bs)
    (readOf r.ends line, { r with left })

/-- What is written to the transcript for a line. -/
def echoed (prompt text : String) : List UInt8 := Text.bytes (prompt ++ text ++ "\n")

/-- A line of a source, echoed. -/
def echo (prompt : String) (transcript : Sink) : Read → Read × Sink
  | .line text =>
    match writeAll (echoed prompt text) transcript with
    | (.ok (), s) => (.line text, s)
    | (.error e, s) => (.failed (.io e), s)
  | r => (r, transcript)

/-- Echoes the lines up to the end of the input or the first failure, which is the last read. -/
def echoAll (prompt : String) (transcript : Sink) : List Read → List Read × Sink
  | [] => ([.endOfInput], transcript)
  | r :: rs =>
    match echo prompt transcript r with
    | (.line text, s) =>
      let (reads, s) := echoAll prompt s rs
      (.line text :: reads, s)
    | (r, s) => ([r], s)

end RelAlgebra.Shell
