import RelAlgebra.Shell.Sink

/-!
The two outputs of the shell, and the transcript that gets a copy of both.
-/

namespace RelAlgebra.Shell

inductive Channel where
  | out
  | err
  deriving DecidableEq, Repr

/-- A text written at once to a channel. -/
structure Piece where
  channel : Channel
  text : String
  deriving DecidableEq, Repr

def outPieces (texts : List String) : List Piece := texts.map (⟨.out, ·⟩)

def errPieces (texts : List String) : List Piece := texts.map (⟨.err, ·⟩)

structure Console where
  out : Sink := {}
  err : Sink := {}
  transcript : Option Sink := none
  deriving DecidableEq, Repr

namespace Console

def sink (c : Console) : Channel → Sink
  | .out => c.out
  | .err => c.err

def withSink (c : Console) (s : Sink) : Channel → Console
  | .out => { c with out := s }
  | .err => { c with err := s }

/-- Writes a piece, and copies it to the transcript if there is one. -/
def put (c : Console) (p : Piece) : Except IoFault Unit × Console :=
  match c.transcript with
  | none =>
    let (result, s) := writeAll (Text.bytes p.text) (c.sink p.channel)
    (result, c.withSink s p.channel)
  | some transcript =>
    let (result, t) := writeAll (Text.bytes p.text) (Tee.mk (c.sink p.channel) transcript)
    (result, { c.withSink t.primary p.channel with transcript := some t.copy })

/-- Writes pieces until one of them fails. -/
def putAll (c : Console) : List Piece → Except IoFault Unit × Console
  | [] => (.ok (), c)
  | p :: ps =>
    match c.put p with
    | (.ok (), c) => c.putAll ps
    | (.error e, c) => (.error e, c)

end Console

end RelAlgebra.Shell
