import RelAlgebra.Proofs.Expr.Printing
import RelAlgebra.Proofs.View.Numbering

/-!
The plain text of a tree, and reading the expression off it.

The text has a line for each node, but a parameter may hold line ends, blanks and what looks like
other operators. So the lines do not tell where a node ends. The tokens do: the text is a layout of
one token for each node, operators before their operands, and each operator says how many operands
follow it.
-/

namespace RelAlgebra

namespace Expr

/-! ### Operators before their operands -/

/-- A token for each node, those of the operands after that of their operator. -/
def preorder : Expr → List Token
  | relation name => [.ident name]
  | unary op e => .unary op :: e.preorder
  | binary op l r => .binary op :: (l.preorder ++ r.preorder)

/-- Gives a token the operands it asks for, from the top of a stack. -/
def push : Token → List Expr → Option (List Expr)
  | .ident name, es => some (relation name :: es)
  | .unary op, e :: es => some (unary op e :: es)
  | .binary op, l :: r :: es => some (binary op l r :: es)
  | _, _ => none

/-- Reads tokens from the last one to the first. -/
def pushAll (ts : List Token) (es : List Expr) : Option (List Expr) :=
  ts.foldr (fun t stack => stack.bind (push t)) (some es)

lemma pushAll_append {ts us : List Token} {es fs : List Expr} (h : pushAll us es = some fs) :
    pushAll (ts ++ us) es = pushAll ts fs := by
  rw [pushAll, List.foldr_append, ← pushAll, h, pushAll]

lemma pushAll_cons {t : Token} {ts : List Token} {es fs : List Expr} (h : pushAll ts es = some fs) :
    pushAll (t :: ts) es = push t fs := by
  rw [pushAll, List.foldr_cons, ← pushAll, h, Option.bind_some]

lemma pushAll_preorder (e : Expr) (es : List Expr) : pushAll e.preorder es = some (e :: es) := by
  induction e generalizing es with
  | relation name => rfl
  | unary op e ih => exact pushAll_cons (ih es)
  | binary op l r ihl ihr =>
    have hoperands : pushAll (l.preorder ++ r.preorder) es = some (l :: r :: es) :=
      (pushAll_append (ihr es)).trans (ihl (r :: es))
    exact pushAll_cons hoperands

/-- The expression whose nodes the tokens of a text name, operators before their operands. -/
def recover? (text : String) : Option Expr :=
  match Lexer.lex text.toList with
  | .error _ => none
  | .ok ls =>
    match pushAll (ls.map Lexeme.token) [] with
    | some [e] => some e
    | _ => none

lemma recover?_of_lays {text : String} {e : Expr} (h : Lexer.Lays e.preorder text.toList) :
    recover? text = some e := by
  obtain ⟨ls, hls, hts⟩ := h 0
  rw [recover?, Lexer.lex_eq_ok_iff.mpr hls]
  simp only [hts, pushAll_preorder]

end Expr

namespace ViewTree

open Lexer

/-! ### Lines -/

lemma toList_line (indent : ℕ) (t : ViewTree) :
    (line false indent t).toList =
      List.replicate indent ' ' ++ (t.label.toList ++ ['\n']) := by
  simp [line]

lemma lays_line {t : ViewTree} {token : Token} {us : List Token} {rest : List Char} (indent : ℕ)
    (hlabel : ∀ cs, Apart cs → Spells token t.label.toList cs) (h : Lays us rest) :
    Lays (token :: us) ((line false indent t).toList ++ rest) := by
  have hnewline : Lays us ('\n' :: rest) := h.blanks ['\n'] (by simp [Text.isBlank])
  have htoken := (hlabel _ (apart_cons (by decide))).lays hnewline
  have hline := htoken.blanks (List.replicate indent ' ')
    fun c hc => List.eq_of_mem_replicate hc ▸ by decide
  simpa [toList_line] using hline

lemma lays_renderAt {t : ViewTree} (ht : t.expr.WellFormed) (indent : ℕ) {us : List Token}
    {rest : List Char} (h : Lays us rest) :
    Lays (t.expr.preorder ++ us) ((t.renderAt false indent).toList ++ rest) := by
  -- what follows a line has been read before it, so the operands come first
  induction t generalizing indent us rest with
  | relation name v => exact lays_line indent (fun cs hcs => spells_name ht hcs.stops) h
  | unary op t v ih =>
    have hoperand := ih ht.2 (indent + 4) h
    have hline := lays_line (t := unary op t v) indent (fun cs _ => spells_unary ht.1 cs) hoperand
    simpa [renderAt, expr, Expr.preorder] using hline
  | binary op l r v ihl ihr =>
    have hoperands := ihl ht.2.1 (indent + 4) (ihr ht.2.2 (indent + 4) h)
    have hline := lays_line (t := binary op l r v) indent (fun cs hcs => spells_binary ht.1 hcs)
      hoperands
    simpa [renderAt, expr, Expr.preorder] using hline

lemma recover?_render {t : ViewTree} (ht : t.expr.WellFormed) :
    Expr.recover? (t.render false) = some t.expr := by
  apply Expr.recover?_of_lays
  simpa [render] using lays_renderAt ht 0 lays_nil

lemma renderAt_ofExpr (e : Expr) (names names' : View.NameSupply) (indent : ℕ) :
    (ofExpr e names).1.renderAt false indent = (ofExpr e names').1.renderAt false indent := by
  induction e generalizing names names' indent with
  | relation name => rfl
  | unary op e ih =>
    simp only [ofExpr, renderAt]
    rw [ih names names']
    rfl
  | binary op l r ihl ihr =>
    simp only [ofExpr, renderAt]
    rw [ihl names names', ihr _ (ofExpr l names').2]
    rfl

/-- **The plain text of a tree determines the expression**, if that was read off some text: it can
be read off the plain text too, and trees of different expressions have different texts. -/
theorem plain_render_determines (text text' : String) (e e' : Expr) (h : Expr.parse text = .ok e)
    (h' : Expr.parse text' = .ok e') (names names' : View.NameSupply) :
    Expr.recover? ((ofExpr e names).1.render false) = some e ∧
      ((ofExpr e names).1.render false = (ofExpr e' names').1.render false ↔ e = e') := by
  have hrecover {text : String} {e : Expr} (h : Expr.parse text = .ok e)
      (names : View.NameSupply) : Expr.recover? ((ofExpr e names).1.render false) = some e := by
    have hwell : (ofExpr e names).1.expr.WellFormed := by
      rw [expr_ofExpr]
      exact Expr.wellFormed_of_parse h
    rw [recover?_render hwell, expr_ofExpr]
  refine ⟨hrecover h names, fun hrender => ?_, ?_⟩
  · have hsame := hrecover h names
    rw [hrender, hrecover h' names'] at hsame
    exact (Option.some.inj hsame).symm
  · rintro rfl
    exact renderAt_ofExpr e names names' 0

/-- A parameter that goes on like the line of an operand. -/
def disguised : Expr :=
  .unary (.select "a = '\x7d'\n    \\project_\x7bb\x7d") (.relation "R")

def undisguised : Expr :=
  .unary (.select "a = '\x7d'") (.unary (.project "b") (.relation "R"))

theorem disguised_render :
    let text := "\\select_\x7ba = '\x7d'\n    \\project_\x7bb\x7d\x7d R"
    let text' := "\\select_\x7ba = '\x7d'\x7d \\project_\x7bb\x7d R"
    let plain := (ofExpr disguised ⟨0⟩).1.render false
    let plain' := (ofExpr undisguised ⟨7⟩).1.render false
    (Expr.parse text = .ok disguised ∧ Expr.parse text' = .ok undisguised) ∧
      plain = "\\select_\x7ba = '\x7d'\n    \\project_\x7bb\x7d\x7d\n    R\n" ∧
      plain' = "\\select_\x7ba = '\x7d'\x7d\n    \\project_\x7bb\x7d\n        R\n" ∧
      Expr.recover? plain = some disguised ∧ plain ≠ plain' := by
  intro text text' plain plain'
  have hparse : Expr.parse text = .ok disguised := by decide +kernel
  have hparse' : Expr.parse text' = .ok undisguised := by decide +kernel
  obtain ⟨hrecover, hiff⟩ :=
    plain_render_determines text text' disguised undisguised hparse hparse' ⟨0⟩ ⟨7⟩
  have hdiffer : disguised ≠ undisguised := by decide +kernel
  exact ⟨⟨hparse, hparse'⟩, by decide +kernel, by decide +kernel, hrecover,
    fun hplain => hdiffer (hiff.mp hplain)⟩

end ViewTree

end RelAlgebra
