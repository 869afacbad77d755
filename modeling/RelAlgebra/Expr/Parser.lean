import RelAlgebra.Token.Lexer

/-!
Reading an expression off a list of tokens, one token at a time.

All binary operators have one precedence and group to the left; a unary operator takes the
relation, the parenthesis or the unary operator that follows it.
-/

namespace RelAlgebra.Expr

/-- An operator that waits for its last operand. -/
inductive Waiting where
  | unary (op : UnaryOp)
  | binary (left : Expr) (op : BinaryOp)
  deriving DecidableEq, Repr

def Waiting.apply (e : Expr) : Waiting → Expr
  | unary op => .unary op e
  | binary left op => .binary op left e

/-- Gives an operand to the operators that wait for it, the innermost first. -/
def attach (e : Expr) (ws : List Waiting) : Expr := ws.foldl Waiting.apply e

/-- An open parenthesis: its offset, and the operators that wait for its value. -/
structure Open where
  offset : Nat
  waiting : List Waiting
  deriving DecidableEq, Repr

/-- Where reading stands: before an operand, or after one. -/
inductive Reading where
  | operand (waiting : List Waiting) (parens : List Open)
  | operator (e : Expr) (parens : List Open)
  deriving DecidableEq, Repr

namespace Reading

def start : Reading := .operand [] []

def step : Reading → Lexeme → Except SyntaxError Reading
  | operand ws ps, ⟨offset, token⟩ =>
    match token with
    | .ident name => .ok (operator (attach (.relation name) ws) ps)
    | .lparen => .ok (operand [] (⟨offset, ws⟩ :: ps))
    | .unary op => .ok (operand (.unary op :: ws) ps)
    | .rparen => .error ⟨offset, .unexpectedClosing⟩
    | .binary op => .error ⟨offset, .operatorFound op.keyword⟩
    | .command c => .error ⟨offset, .operatorFound c.keyword⟩
  | operator e ps, ⟨offset, token⟩ =>
    match token, ps with
    | .binary op, _ => .ok (operand [.binary e op] ps)
    | .rparen, p :: ps => .ok (operator (attach e p.waiting) ps)
    | _, p :: _ => .error ⟨p.offset, .unbalancedParenthesis⟩
    | _, [] => .error ⟨offset, .inputAfterExpression⟩

/-- What the tokens amount to at the end of the text, which is at the byte offset `last`. -/
def finish (last : Nat) : Reading → Except SyntaxError Expr
  | operator e [] => .ok e
  | operator _ (p :: _) => .error ⟨p.offset, .unbalancedParenthesis⟩
  | operand _ _ => .error ⟨last, .expressionExpected⟩

def run (s : Reading) (ts : List Lexeme) : Except SyntaxError Reading := ts.foldlM step s

end Reading

/-- The expression a list of tokens spells. -/
def ofTokens (last : Nat) (ts : List Lexeme) : Except SyntaxError Expr :=
  (Reading.run .start ts).bind (Reading.finish last)

end RelAlgebra.Expr
