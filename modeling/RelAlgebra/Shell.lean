import RelAlgebra.Shell.Report
import RelAlgebra.Shell.Source
import RelAlgebra.Statement.Cut
import RelAlgebra.Statement.Parser

/-!
The interactive shell. It takes lines, answers each statement as soon as its semicolon is read,
and goes on after every error but a failure to read or write.
-/

namespace RelAlgebra

namespace Shell

variable {σ : Type} [Database σ]

/-- What a statement calls for. -/
structure Reply where
  output : List Piece
  quit : Bool := false

/-- Answers the text of a statement, without its semicolon. -/
def respond (verbose : Bool) (text : List Char) (s : Session σ) : Reply × Session σ :=
  match Statement.parse (String.ofList text) with
  | .error e => ({ output := syntaxReport e.toError }, s)
  | .ok (.command .quit) => ({ output := [], quit := true }, s)
  | .ok (.command .help) => ({ output := outPieces [helpText, "\n"] }, s)
  | .ok (.command .list) =>
    let (names, s) := s.listRelations
    ({ output := listing names }, s)
  | .ok (.command (.sqlExec sql)) =>
    let (results, s) := s.execCommands sql
    ({ output := commandReport results }, s)
  | .ok (.expr e) =>
    let (evaluation, s) := s.evaluate e
    ({ output := evaluationReport verbose evaluation }, s)

/-- Whether the shell still takes lines. -/
inductive Phase where
  | reading
  | ended
  | failed (e : Error)
  deriving DecidableEq, Repr

end Shell

open Shell

structure Shell (σ : Type) where
  session : Session σ
  console : Console := {}
  verbose : Bool := false
  /-- The prompt is written to the output, as a line editor does. -/
  showsPrompt : Bool := false
  /-- The text of the statement that is not complete yet. -/
  pending : List Char := []
  /-- The number of the line to read next. -/
  lineNumber : Nat := 1
  /-- The prompts given so far. -/
  prompts : Array String := #[]
  phase : Phase := .reading

namespace Shell

variable {σ : Type} [Database σ]

def isReading (s : Shell σ) : Bool := s.phase = .reading

/-- Writes pieces; a failure ends the shell. -/
def emit (s : Shell σ) (pieces : List Piece) : Shell σ :=
  match s.console.putAll pieces with
  | (.ok (), console) => { s with console }
  | (.error e, console) => { s with console, phase := .failed (.io e) }

def welcome (s : Shell σ) : Shell σ := s.emit (outPieces welcomeTexts)

/-- Ends the shell, unless it has failed. -/
def close (s : Shell σ) : Shell σ := if s.isReading then { s with phase := .ended } else s

/-- Writes the last pieces and ends the shell. -/
def bye (s : Shell σ) (pieces : List Piece) : Shell σ :=
  (s.emit (pieces ++ outPieces byeTexts)).close

/-- Answers one statement. -/
def answer (s : Shell σ) (text : List Char) : Shell σ :=
  let (reply, session) := respond s.verbose text s.session
  let s := { s with session }
  if reply.quit then s.bye reply.output else s.emit reply.output

/-- Answers statements until one of them ends the shell. Blank ones are passed over. -/
def answerAll (s : Shell σ) : List (List Char) → Shell σ
  | [] => s
  | text :: texts =>
    if Text.allBlank text then s.answerAll texts
    else
      let s := s.answer text
      if s.isReading then s.answerAll texts else s

/-- Starts a new statement when only blanks are left of the last line. -/
def settle (s : Shell σ) : Shell σ :=
  if Text.allBlank s.pending then { s with pending := [], lineNumber := 1 } else s

/-- Takes a line: answers the statements it completes and keeps what is left. -/
def take (s : Shell σ) (line : String) : Shell σ :=
  let (texts, rest) := Statement.cutAll (s.pending ++ line.toList ++ ['\n'])
  let s := s.answerAll texts
  if s.isReading then
    { s with pending := rest, lineNumber := s.lineNumber + 1 }.settle
  else s

/-- The prompt for the next line. -/
def prompt (s : Shell σ) : String :=
  if s.lineNumber = 1 then "ra> " else toString s.lineNumber ++ "> "

/-- Gives the prompt for the next line. -/
def ask (s : Shell σ) : Shell σ :=
  let s := { s with prompts := s.prompts.push s.prompt }
  if s.showsPrompt then
    match writeAll (Text.bytes s.prompt) s.console.out with
    | (.ok (), out) => { s with console := { s.console with out } }
    | (.error e, out) =>
      { s with console := { s.console with out }, phase := .failed (.io e) }
  else s

/-- Copies a line that was read to the transcript, if there is one. -/
def echoLine (s : Shell σ) (r : Read) : Read × Shell σ :=
  match s.console.transcript with
  | none => (r, s)
  | some transcript =>
    let (r, sink) := echo s.prompt transcript r
    (r, { s with console := { s.console with transcript := some sink } })

/-- Reports an error and goes on, or ends the shell if the error is fatal. -/
def recover (s : Shell σ) (e : Error) : Shell σ :=
  if e.isFatal then { s with phase := .failed e }
  else
    let text := "recovered from " ++ e.kind.name ++ " error: " ++ e.message
    { s with session := { s.session with conn := s.session.conn.warn text } }.emit
      (recoveryReport e)

/-- Ends the shell at the end of the input. -/
def finish (s : Shell σ) : Shell σ :=
  if Text.allBlank s.pending then s.bye []
  else
    let text := "discarding unterminated statement at end of input"
    { s with session := { s.session with conn := s.session.conn.warn text } }.bye
      unterminatedReport

/-- Acts on what came when a line was asked for. -/
def heed (s : Shell σ) (r : Read) : Shell σ :=
  match s.echoLine r with
  | (.line text, s) => s.take text
  | (.endOfInput, s) => s.finish
  | (.failed e, s) => s.recover e

/-- Asks for a line and acts on what comes. -/
def read (s : Shell σ) (r : Read) : Shell σ :=
  let s := s.ask
  if s.isReading then s.heed r else s

/-- Acts on what a source delivers, after which the input ends. -/
def run (s : Shell σ) : List Read → Shell σ
  | [] => if s.isReading then s.read .endOfInput else s
  | r :: rs => if s.isReading then (s.read r).run rs else s

end Shell

end RelAlgebra
