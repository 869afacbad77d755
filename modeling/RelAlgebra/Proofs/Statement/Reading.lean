import RelAlgebra.Proofs.Expr.Grammar

/-!
Which statement a list of tokens is read as.

A statement is a command that stands alone or an expression of the grammar. An expression is a
chain of operands with binary operators between them, grouped to the left; the grammar has one
tree at most for a list of tokens, and what is neither a command nor an expression is refused as
a syntax error.
-/

namespace RelAlgebra

namespace Expr

/-! ### Chains of operands -/

/-- An operand and those that follow it, each with the operator before it, grouped to the
left. -/
def grouped (first : Expr) (rest : List (BinaryOp × Expr)) : Expr :=
  rest.foldl (fun left next => .binary next.1 left next.2) first

/-- The tokens of the operands that follow the first one, each after its operator. -/
inductive Follow : List (BinaryOp × Expr) → List Token → Prop
  | nil : Follow [] []
  | cons (op : BinaryOp) {us ts : List Token} {r : Expr} {rest : List (BinaryOp × Expr)}
      (hr : Derives .unary us r) (h : Follow rest ts) :
      Follow ((op, r) :: rest) (.binary op :: us ++ ts)

lemma Follow.snoc {rest : List (BinaryOp × Expr)} {ts us : List Token} {r : Expr}
    (h : Follow rest ts) (op : BinaryOp) (hr : Derives .unary us r) :
    Follow (rest ++ [(op, r)]) (ts ++ .binary op :: us) := by
  induction h with
  | nil => simpa using Follow.cons op hr .nil
  | cons op' hr' h ih => simpa using Follow.cons op' hr' ih

lemma Follow.derives {rest : List (BinaryOp × Expr)} {ts us : List Token} {first : Expr}
    (h : Follow rest ts) (hf : Derives .expr us first) :
    Derives .expr (us ++ ts) (grouped first rest) := by
  induction h generalizing us first with
  | nil => simpa [grouped] using hf
  | cons op hr h ih => simpa [grouped] using ih (.binary op hf hr)

/-- An expression is an operand followed by any number of operators with an operand each, all of one
precedence and grouped to the left. -/
lemma derives_expr_iff {ts : List Token} {e : Expr} :
    Derives .expr ts e ↔ ∃ us vs first rest, ts = us ++ vs ∧ Derives .unary us first ∧
      Follow rest vs ∧ e = grouped first rest := by
  constructor
  · intro h
    generalize hp : Phrase.expr = p at h
    -- the rules of the other phrases do not apply
    induction h with
    | single h => exact ⟨_, [], _, [], by simp, h, .nil, rfl⟩
    | @binary op ls rs l r _ hr ih =>
      obtain ⟨us, vs, first, rest, rfl, hfirst, hrest, rfl⟩ := ih rfl
      refine ⟨us, vs ++ .binary op :: rs, first, rest ++ [(op, r)], by simp, hfirst,
        hrest.snoc op hr, ?_⟩
      simp [grouped]
    | _ => cases hp
  · rintro ⟨us, vs, first, rest, rfl, hfirst, hrest, rfl⟩
    exact hrest.derives (.single hfirst)

/-! ### One tree -/

lemma Derives.toExpr {p : Phrase} {ts : List Token} {e : Expr} (h : Derives p ts e) :
    Derives .expr ts e := by
  cases p with
  | expr => exact h
  | unary => exact .single h
  | primary => exact .single (.primary h)

lemma Derives.unique {p q : Phrase} {ts : List Token} {e e' : Expr} (h : Derives p ts e)
    (h' : Derives q ts e') : e = e' := by
  have hts : (ts.map (Lexeme.mk 0)).map Lexeme.token = ts := by
    rw [List.map_map]
    exact List.map_id ts
  -- both trees are what is read from the tokens, and reading gives one tree
  have hread : ofTokens 0 (ts.map (Lexeme.mk 0)) = .ok e :=
    ofTokens_eq_ok_iff.mpr (by rw [hts]; exact h.toExpr)
  have hread' : ofTokens 0 (ts.map (Lexeme.mk 0)) = .ok e' :=
    ofTokens_eq_ok_iff.mpr (by rw [hts]; exact h'.toExpr)
  rw [hread] at hread'
  exact Except.ok.inj hread'

end Expr

namespace Statement

/-! ### Statements -/

lemma ofTokens_eq_command_iff {last : Nat} {ls : List Lexeme} {c : Command} :
    ofTokens last ls = .ok (.command c) ↔ ls.map Lexeme.token = [.command c] := by
  rw [ofTokens.eq_def]
  split
  · next c' => simp
  · next => simp
  · next hone _ =>
    have hexpr : (Expr.ofTokens last ls).map Statement.expr ≠ .ok (.command c) := by
      intro h
      obtain ⟨e, -, he⟩ := Except.map_eq_ok_iff.mp h
      cases he
    refine iff_of_false hexpr fun htokens => ?_
    obtain ⟨⟨offset, t⟩, rfl, ht⟩ := List.map_eq_singleton_iff.mp htokens
    cases ht
    exact hone offset c rfl

lemma parse_of_lex {text : String} {ls : List Lexeme} (h : Lexer.lex text.toList = .ok ls) :
    parse text = ofTokens (Text.width text.toList) ls := by
  rw [parse, h]
  rfl

lemma reported_iff {r : Except SyntaxError Statement} :
    (∃ offset fault, r.mapError SyntaxError.toError = .error (.parse offset fault)) ↔
      ∀ st, r ≠ .ok st := by
  cases r with
  | ok st => simp [Except.mapError]
  | error err => simp [Except.mapError, SyntaxError.toError]

/-- **The tokens of a text decide what it is read as**: the expression that the grammar derives
from them, of which there is one at most, or the command that stands alone. Everything else is a
syntax error. -/
theorem parse_lexed (text : String) (ls : List Lexeme) (h : Lexer.lex text.toList = .ok ls) :
    (∀ e, parse text = .ok (.expr e) ↔ Expr.Derives .expr (ls.map Lexeme.token) e) ∧
      (∀ c, parse text = .ok (.command c) ↔ ls.map Lexeme.token = [.command c]) ∧
      (∀ e, Expr.Derives .expr (ls.map Lexeme.token) e ↔
        ∃ us vs first rest, ls.map Lexeme.token = us ++ vs ∧ Expr.Derives .unary us first ∧
          Expr.Follow rest vs ∧ e = Expr.grouped first rest) ∧
      (∀ e e', Expr.Derives .expr (ls.map Lexeme.token) e →
        Expr.Derives .expr (ls.map Lexeme.token) e' → e = e') ∧
      ((∃ offset fault,
          (parse text).mapError SyntaxError.toError = .error (.parse offset fault)) ↔
        (∀ e, ¬ Expr.Derives .expr (ls.map Lexeme.token) e) ∧
          ∀ c, ls.map Lexeme.token ≠ [.command c]) := by
  have hexpr (e : Expr) :
      parse text = .ok (.expr e) ↔ Expr.Derives .expr (ls.map Lexeme.token) e := by
    rw [parse_of_lex h, Expr.statement_ofTokens_eq_expr_iff]
  have hcommand (c : Command) :
      parse text = .ok (.command c) ↔ ls.map Lexeme.token = [.command c] := by
    rw [parse_of_lex h, ofTokens_eq_command_iff]
  refine ⟨hexpr, hcommand, fun e => Expr.derives_expr_iff, fun e e' he he' => he.unique he', ?_⟩
  rw [reported_iff]
  constructor
  · intro hno
    exact ⟨fun e he => hno _ ((hexpr e).mpr he), fun c hc => hno _ ((hcommand c).mpr hc)⟩
  · rintro ⟨hno, hno'⟩ (c | e) hst
    · exact hno' c ((hcommand c).mp hst)
    · exact hno e ((hexpr e).mp hst)

/-- Two operators of one precedence, the first one with a parenthesis on its right. -/
def chained : String := "\\select_\x7b a \x7d R \\diff (S \\cross T) \\Union U"

def chainedLexemes : List Lexeme :=
  [⟨0, .unary (.select "a")⟩, ⟨14, .ident "R"⟩, ⟨16, .binary .diff⟩, ⟨22, .lparen⟩,
    ⟨23, .ident "S"⟩, ⟨25, .binary .cross⟩, ⟨32, .ident "T"⟩, ⟨33, .rparen⟩,
    ⟨35, .binary .union⟩, ⟨42, .ident "U"⟩]

def chainedExpr : Expr :=
  .binary .union
    (.binary .diff (.unary (.select "a") (.relation "R"))
      (.binary .cross (.relation "S") (.relation "T")))
    (.relation "U")

theorem chained_lexed :
    Lexer.lex chained.toList = .ok chainedLexemes ∧
      Expr.Derives .expr (chainedLexemes.map Lexeme.token) chainedExpr ∧
      ∀ e, Expr.Derives .expr (chainedLexemes.map Lexeme.token) e → e = chainedExpr := by
  have hlex : Lexer.lex chained.toList = .ok chainedLexemes := by decide +kernel
  have hparse : parse chained = .ok (.expr chainedExpr) := by decide +kernel
  obtain ⟨hexpr, -, -, hone, -⟩ := parse_lexed chained chainedLexemes hlex
  have hderives := (hexpr chainedExpr).mp hparse
  exact ⟨hlex, hderives, fun e he => hone e chainedExpr he hderives⟩

end Statement

end RelAlgebra
