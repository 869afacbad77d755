import RelAlgebra.Expr.Parser

/-!
Reading a statement: a command that stands alone, or an expression.
-/

namespace RelAlgebra

/-- The statement a list of tokens spells; `last` is the byte offset of the end of the text. -/
def Statement.ofTokens (last : Nat) : List Lexeme → Except SyntaxError Statement
  | [⟨_, .command c⟩] => .ok (.command c)
  | ⟨_, .command _⟩ :: next :: _ => .error ⟨next.offset, .inputAfterCommand⟩
  | ts => (Expr.ofTokens last ts).map .expr

/-- Reads one statement, without its semicolon. -/
def Statement.parse (text : String) : Except SyntaxError Statement :=
  (Lexer.lex text.toList).bind (Statement.ofTokens (Text.width text.toList))

/-- Reads a text that has to be an expression. -/
def Expr.parse (text : String) : Except SyntaxError Expr :=
  match Statement.parse text with
  | .error e => .error e
  | .ok (.expr e) => .ok e
  | .ok (.command c) => .error ⟨0, .commandFound c⟩

/-- The error a syntax error is reported as. -/
def SyntaxError.toError (e : SyntaxError) : Error := .parse e.offset e.fault

end RelAlgebra
