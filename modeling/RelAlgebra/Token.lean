import RelAlgebra.Statement

/-!
Tokens of the statement language. A token of an operator carries the operator with its parameter,
so a token list has no operator whose parameter is missing or superfluous. A binary operator is a
token apart from the other keywords: none of these can stand where an expression asks for a binary
operator, and reading an expression has no fault "treated as a binary operator" to report.
-/

namespace RelAlgebra

inductive Token where
  | ident (name : String)
  | lparen
  | rparen
  | unary (op : UnaryOp)
  | binary (op : BinaryOp)
  | command (c : Command)
  deriving DecidableEq, Repr

/-- A token with the byte offset at which it starts. -/
structure Lexeme where
  offset : Nat
  token : Token
  deriving DecidableEq, Repr

/-- The words that can follow a backslash. -/
inductive Keyword where
  | help | quit | list | sqlExec
  | select | project | rename
  | join | cross | union | diff | intersect
  deriving DecidableEq, Repr

namespace Keyword

def all : List Keyword :=
  [help, quit, list, sqlExec, select, project, rename, join, cross, union, diff, intersect]

/-- The word in lower case. -/
def word : Keyword → String
  | help => "help"
  | quit => "quit"
  | list => "list"
  | sqlExec => "sqlexec"
  | select => "select"
  | project => "project"
  | rename => "rename"
  | join => "join"
  | cross => "cross"
  | union => "union"
  | diff => "diff"
  | intersect => "intersect"

/-- The keyword a word spells. The case of its letters does not matter. -/
def ofWord? (w : List Char) : Option Keyword :=
  all.find? fun k => k.word.toList == w.map Char.toLower

/-- The name of the keyword in messages. -/
def title : Keyword → String
  | help => "Help"
  | quit => "Quit"
  | list => "List"
  | sqlExec => "SqlExec"
  | select => "Select"
  | project => "Project"
  | rename => "Rename"
  | join => "Join"
  | cross => "Cross"
  | union => "Union"
  | diff => "Diff"
  | intersect => "Intersect"

/-- Why a keyword and its parameter make no token. -/
inductive Misuse where
  | parameterRequired
  | parameterForbidden
  deriving DecidableEq, Repr

/-- The token of a keyword and its parameter, if there is one. -/
def token : Keyword → Option String → Except Misuse Token
  | help, none => .ok (.command .help)
  | quit, none => .ok (.command .quit)
  | list, none => .ok (.command .list)
  | sqlExec, some sql => .ok (.command (.sqlExec sql))
  | select, some condition => .ok (.unary (.select condition))
  | project, some columns => .ok (.unary (.project columns))
  | rename, some columns => .ok (.unary (.rename columns))
  | join, condition => .ok (.binary (.join condition))
  | cross, none => .ok (.binary .cross)
  | union, none => .ok (.binary .union)
  | diff, none => .ok (.binary .diff)
  | intersect, none => .ok (.binary .intersect)
  | _, none => .error .parameterRequired
  | _, some _ => .error .parameterForbidden

end Keyword

def UnaryOp.keyword : UnaryOp → Keyword
  | .select _ => .select
  | .project _ => .project
  | .rename _ => .rename

def BinaryOp.keyword : BinaryOp → Keyword
  | .join _ => .join
  | .cross => .cross
  | .union => .union
  | .diff => .diff
  | .intersect => .intersect

def Command.keyword : Command → Keyword
  | .help => .help
  | .quit => .quit
  | .list => .list
  | .sqlExec _ => .sqlExec

end RelAlgebra
