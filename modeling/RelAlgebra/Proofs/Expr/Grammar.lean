import RelAlgebra.Proofs.Token.Spelling
import RelAlgebra.Statement.Parser

/-!
The grammar of expressions, and that reading a list of tokens finds what the grammar derives.

While tokens are read, the state keeps apart the open parentheses, the operators that wait for an
operand and the expression just read; each accounts for a stretch of the tokens read so far.
-/

namespace RelAlgebra.Expr

inductive Phrase where
  | expr
  | unary
  | primary
  deriving DecidableEq, Repr

/-- The token lists of an expression, as a phrase of each kind. Binary operators group to the
left. -/
inductive Derives : Phrase → List Token → Expr → Prop
  | ident (name : String) : Derives .primary [.ident name] (.relation name)
  | paren {ts : List Token} {e : Expr} (h : Derives .expr ts e) :
      Derives .primary (.lparen :: ts ++ [.rparen]) e
  | primary {ts : List Token} {e : Expr} (h : Derives .primary ts e) : Derives .unary ts e
  | unary (op : UnaryOp) {ts : List Token} {e : Expr} (h : Derives .unary ts e) :
      Derives .unary (.unary op :: ts) (.unary op e)
  | single {ts : List Token} {e : Expr} (h : Derives .unary ts e) : Derives .expr ts e
  | binary (op : BinaryOp) {ls rs : List Token} {l r : Expr} (hl : Derives .expr ls l)
      (hr : Derives .unary rs r) : Derives .expr (ls ++ .binary op :: rs) (.binary op l r)

namespace Reading

lemma run_cons_eq_ok_iff {s s' : Reading} {l : Lexeme} {ls : List Lexeme} :
    run s (l :: ls) = .ok s' ↔ ∃ m, s.step l = .ok m ∧ run m ls = .ok s' :=
  Except.bind_eq_ok_iff

lemma run_cons_of_step {s m : Reading} {l : Lexeme} (h : s.step l = .ok m) (ls : List Lexeme) :
    run s (l :: ls) = run m ls := by
  change (s.step l).bind _ = _
  rw [h]
  rfl

lemma run_append_of_run {s m : Reading} {as : List Lexeme} (h : run s as = .ok m)
    (bs : List Lexeme) : run s (as ++ bs) = run m bs := by
  induction as generalizing s with
  | nil => cases h; rfl
  | cons l as ih =>
    obtain ⟨s', hs, hrun⟩ := run_cons_eq_ok_iff.mp h
    rw [List.cons_append, run_cons_of_step hs, ih hrun]

lemma exists_step_of_run_error {s : Reading} {ls : List Lexeme} {e : SyntaxError}
    (h : run s ls = .error e) :
    ∃ as l bs m, ls = as ++ l :: bs ∧ run s as = .ok m ∧ m.step l = .error e := by
  induction ls generalizing s with
  | nil => cases h
  | cons l ls ih =>
    cases hs : s.step l with
    | error e' =>
      have hfail : run s (l :: ls) = .error e' := by
        change (s.step l).bind _ = _
        rw [hs]
        rfl
      cases hfail.symm.trans h
      exact ⟨[], l, ls, s, rfl, rfl, hs⟩
    | ok m =>
      rw [run_cons_of_step hs] at h
      obtain ⟨as, l', bs, m', rfl, has, hstep⟩ := ih h
      exact ⟨l :: as, l', bs, m', rfl, (run_cons_of_step hs as).trans has, hstep⟩

end Reading

open Reading

/-! ### What the grammar derives is read -/

/-- A derived phrase is read where an operand may stand and given to the operators that wait for
it. None may wait for a phrase that can end in a binary operation. -/
lemma Derives.run_eq {p : Phrase} {ts : List Token} {e : Expr} (h : Derives p ts e)
    {ls : List Lexeme} (hls : ls.map Lexeme.token = ts) {ws : List Waiting}
    (hws : p = .expr → ws = []) (ps : List Open) :
    run (.operand ws ps) ls = .ok (.operator (attach e ws) ps) := by
  induction h generalizing ls ws ps with
  | ident name =>
    obtain ⟨⟨o, t⟩, rfl, ht⟩ := List.map_eq_singleton_iff.mp hls
    cases ht
    rfl
  | @paren ts e h ih =>
    obtain ⟨as, bs, rfl, has, hbs⟩ := List.map_eq_append_iff.mp hls
    obtain ⟨⟨o, t⟩, as, rfl, ht, hts⟩ := List.map_eq_cons_iff.mp has
    obtain ⟨⟨o', t'⟩, rfl, ht'⟩ := List.map_eq_singleton_iff.mp hbs
    cases ht
    cases ht'
    -- what waits before the parenthesis is set aside, so any expression may stand in it
    have hrun := ih hts (fun _ => rfl) (⟨o, ws⟩ :: ps)
    rw [List.cons_append, run_cons_of_step rfl, run_append_of_run hrun]
    rfl
  | primary h ih => exact ih hls nofun ps
  | unary op h ih =>
    obtain ⟨⟨o, t⟩, as, rfl, ht, has⟩ := List.map_eq_cons_iff.mp hls
    cases ht
    rw [run_cons_of_step rfl, ih has nofun]
    rfl
  | single h ih => exact ih hls nofun ps
  | @binary op ls rs l r hl hr ihl ihr =>
    -- nothing waits, so the left operand goes to this operator and to no other
    cases hws rfl
    obtain ⟨as, bs, rfl, has, hbs⟩ := List.map_eq_append_iff.mp hls
    obtain ⟨⟨o, t⟩, bs, rfl, ht, hrs⟩ := List.map_eq_cons_iff.mp hbs
    cases ht
    rw [run_append_of_run (ihl has (fun _ => rfl) ps), run_cons_of_step rfl, ihr hrs nofun]
    rfl

/-! ### What is read is derived -/

/-- The tokens that leave operators waiting. A binary operator waits behind all others, as its left
operand starts where the expression starts. -/
inductive Waits : List Waiting → List Token → Prop
  | nil : Waits [] []
  | binary (op : BinaryOp) {ts : List Token} {l : Expr} (h : Derives .expr ts l) :
      Waits [.binary l op] (ts ++ [.binary op])
  | unary (op : UnaryOp) {ws : List Waiting} {ts : List Token} (h : Waits ws ts) :
      Waits (.unary op :: ws) (ts ++ [.unary op])

lemma Waits.attach {ws : List Waiting} {ts us : List Token} {e : Expr} (h : Waits ws ts)
    (he : Derives .unary us e) : Derives .expr (ts ++ us) (attach e ws) := by
  induction h generalizing us e with
  | nil => exact .single he
  | binary op h =>
    rw [List.append_assoc]
    exact .binary op h he
  | unary op h ih =>
    rw [List.append_assoc]
    exact ih (.unary op he)

inductive Opens : List Open → List Token → Prop
  | nil : Opens [] []
  | cons (offset : Nat) {ws : List Waiting} {ps : List Open} {ts us : List Token}
      (hp : Opens ps ts) (hw : Waits ws us) : Opens (⟨offset, ws⟩ :: ps) (ts ++ us ++ [.lparen])

/-- The tokens that lead to a state. -/
inductive Reads : Reading → List Token → Prop
  | operand {ws : List Waiting} {ps : List Open} {ts us : List Token} (hp : Opens ps ts)
      (hw : Waits ws us) : Reads (.operand ws ps) (ts ++ us)
  | operator {e : Expr} {ps : List Open} {ts us : List Token} (hp : Opens ps ts)
      (he : Derives .expr us e) : Reads (.operator e ps) (ts ++ us)

lemma reads_start : Reads .start [] := .operand .nil .nil

lemma Reads.step {s s' : Reading} {l : Lexeme} {ts : List Token} (h : Reads s ts)
    (hs : s.step l = .ok s') : Reads s' (ts ++ [l.token]) := by
  obtain ⟨o, t⟩ := l
  cases h with
  | @operand ws ps ts us hp hw =>
    cases t with
    | ident name =>
      cases hs
      rw [List.append_assoc]
      exact .operator hp (hw.attach (.primary (.ident name)))
    | lparen =>
      cases hs
      simpa using Reads.operand (.cons o hp hw) .nil
    | unary op =>
      cases hs
      rw [List.append_assoc]
      exact .operand hp (.unary op hw)
    | _ => cases hs
  | @operator e ps ts us hp he =>
    cases t with
    | binary op =>
      cases hs
      rw [List.append_assoc]
      exact .operand hp (.binary op he)
    | rparen =>
      cases hp with
      | nil => cases hs
      | cons o' hp hw =>
        cases hs
        -- what stands in the parentheses is an operand of what waits before them
        have := Reads.operator hp (hw.attach (.primary (.paren he)))
        simpa using this
    | _ => cases ps <;> cases hs

lemma Reads.run {s s' : Reading} {ls : List Lexeme} {ts : List Token} (h : Reads s ts)
    (hrun : Reading.run s ls = .ok s') : Reads s' (ts ++ ls.map Lexeme.token) := by
  induction ls generalizing s ts with
  | nil =>
    cases hrun
    simpa using h
  | cons l ls ih =>
    obtain ⟨m, hm, hrun⟩ := run_cons_eq_ok_iff.mp hrun
    simpa using ih (h.step hm) hrun

lemma ofTokens_eq_ok_iff {last : Nat} {ls : List Lexeme} {e : Expr} :
    ofTokens last ls = .ok e ↔ Derives .expr (ls.map Lexeme.token) e := by
  rw [ofTokens, Except.bind_eq_ok_iff]
  constructor
  · rintro ⟨s, hrun, hfinish⟩
    have hreads := reads_start.run hrun
    rw [List.nil_append] at hreads
    generalize ls.map Lexeme.token = ts at hreads ⊢
    cases hreads with
    | operand => cases hfinish
    | operator hp he =>
      cases hp with
      | nil =>
        cases hfinish
        exact he
      | cons => cases hfinish
  · intro h
    exact ⟨_, h.run_eq rfl (fun _ => rfl) [], rfl⟩

/-! ### Texts -/

lemma Derives.command_not_mem {p : Phrase} {ts : List Token} {e : Expr} (h : Derives p ts e)
    (c : Command) : .command c ∉ ts := by
  induction h <;> simp_all

lemma statement_ofTokens_eq_expr_iff {last : Nat} {ls : List Lexeme} {e : Expr} :
    Statement.ofTokens last ls = .ok (.expr e) ↔ Derives .expr (ls.map Lexeme.token) e := by
  rw [Statement.ofTokens.eq_def]
  split
  · next c =>
    simp only [Except.ok.injEq, reduceCtorEq, false_iff]
    exact fun h => h.command_not_mem c (by simp)
  · next c _ _ =>
    simp only [reduceCtorEq, false_iff]
    exact fun h => h.command_not_mem c (by simp)
  · rw [Except.map_eq_ok_iff]
    simp [ofTokens_eq_ok_iff]

lemma parse_eq_ok_iff {text : String} {e : Expr} :
    parse text = .ok e ↔
      ∃ ls, Lexer.Layout 0 ls text.toList ∧ Derives .expr (ls.map Lexeme.token) e := by
  have hparse : parse text = .ok e ↔ Statement.parse text = .ok (.expr e) := by
    rw [parse]
    split <;> simp_all
  rw [hparse, Statement.parse, Except.bind_eq_ok_iff]
  simp only [Lexer.lex_eq_ok_iff, statement_ofTokens_eq_expr_iff]

end RelAlgebra.Expr
