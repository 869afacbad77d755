import RelAlgebra.Proofs.Expr.Grammar
import RelAlgebra.Proofs.Statement.Splitting

/-!
The parameters of a complete statement.

Cutting a text counts its braces from the start to the end and passes over stray braces and quotes;
reading tokens counts them inside parameters and stops at stray ones. Both stand outside all braces
wherever reading comes to a new token. So in a statement that was cut off, which ends outside all
braces, every parameter that reading comes to is closed.
-/

namespace RelAlgebra

namespace Lexer

open Statement

/-! ### Parameters -/

lemma exists_closeParameter {n : Nesting} {cs : List Char} (hn : n.depth ≠ 0)
    (h : (n.run cs).depth = 0) : ∃ p, closeParameter n cs = some p := by
  induction cs generalizing n with
  | nil => exact absurd h hn
  | cons c cs ih =>
    rw [closeParameter]
    split_ifs with hc
    · exact ⟨_, rfl⟩
    · obtain ⟨p, hp⟩ := ih hc h
      exact ⟨_, by rw [hp]; rfl⟩

lemma Reaches.parameter_closed {offset : Nat} {ts : List Lexeme} {w word cs : List Char}
    (hw : Reaches offset ts w ('\\' :: word ++ '_' :: '{' :: cs))
    (hword : ∀ c ∈ word, c.isAlpha = true)
    (h : Nesting.outside.run (w ++ ('\\' :: word ++ '_' :: '{' :: cs)) = .outside) :
    ∃ body rest, cs = body ++ '}' :: rest ∧ Enclosed body := by
  have hrun : Nesting.outside.run ('\\' :: word) = .outside := by
    have hbackslash : Nesting.outside.step '\\' = .outside := by decide
    rw [Nesting.run_cons, hbackslash]
    exact (unbroken_of_class (by decide) hword).2
  -- what stands before the brace leaves the count where it was
  have hopened : (Nesting.opened.run cs).depth = 0 := by
    rw [Nesting.run_append, hw.unbroken.2, Nesting.run_append, hrun] at h
    exact congrArg Nesting.depth h
  obtain ⟨⟨body, rest⟩, hclose⟩ := exists_closeParameter (by decide) hopened
  exact ⟨body, rest, closeParameter_opened.mp hclose⟩

/-! ### Faults -/

lemma take_fault {c : Char} {cs : List Char} {f : SyntaxFault} (h : take c cs = .error f) :
    (f = .unterminatedParameter ∧ ∃ word rest, c :: cs = '\\' :: word ++ '_' :: '{' :: rest ∧
      (∀ c ∈ word, c.isAlpha = true) ∧ closeParameter .opened rest = none) ∨
    f = .unexpectedCharacter c ∨
    ∃ word, f = .unknownOperator word ∨ f = .parameterRequired word ∨
      f = .parameterForbidden word := by
  rw [take] at h
  split_ifs at h with h1 h2 h3 h4
  · rw [wordToken] at h
    split at h
    · cases h
      exact .inr (.inr ⟨_, .inl rfl⟩)
    · split at h
      · next rest hrest =>
        rw [parameterToken] at h
        split at h
        · next hclose =>
          cases h
          -- the only fault that depends on what follows the opening brace
          refine .inl ⟨rfl, cs.takeWhile Char.isAlpha, rest, ?_,
            fun c hc => List.mem_takeWhile_imp hc, hclose⟩
          rw [h3, List.cons_append, ← hrest, List.takeWhile_append_dropWhile]
        · split at h
          · cases h
          · cases h
            exact .inr (.inr ⟨_, .inr (.inr rfl)⟩)
      · rw [plainToken] at h
        split at h
        · cases h
        · cases h
          exact .inr (.inr ⟨_, .inr (.inl rfl)⟩)
  · cases h
    exact .inr (.inl rfl)

end Lexer

/-- The faults that reading a list of tokens can find. -/
def SyntaxFault.OfTokens : SyntaxFault → Prop
  | unbalancedParenthesis | unexpectedClosing | expressionExpected | operatorFound _
  | inputAfterCommand | inputAfterExpression => True
  | _ => False

/-- The words for a parameter that is not closed stand for nothing else, but where a source of lines
chooses its own words. -/
lemma SyntaxFault.eq_of_message {f : SyntaxFault}
    (h : f.message = "unterminated operator parameter") :
    f = .unterminatedParameter ∨ ∃ text, f = .other text := by
  -- the first three letters tell them apart
  have hstart : f.message.toList.take 3 = ['u', 'n', 't'] := by
    rw [h]
    decide +kernel
  cases f with
  | unterminatedParameter => exact .inl rfl
  | other text => exact .inr ⟨text, rfl⟩
  | unbalancedParenthesis | unexpectedClosing | expressionExpected | inputAfterCommand
  | inputAfterExpression => exact absurd hstart (by decide +kernel)
  | unknownOperator word =>
    change ("unknown operator \\" ++ word).toList.take 3 = _ at hstart
    simp at hstart
  | parameterRequired word =>
    change ("\\" ++ word ++ " requires a parameter: " ++ withParameter word "...").toList.take 3 = _
      at hstart
    simp at hstart
  | parameterForbidden word =>
    change ("\\" ++ word ++ " does not take a parameter").toList.take 3 = _ at hstart
    simp at hstart
  | unexpectedCharacter c =>
    change ("unexpected character '" ++ c.toString ++ "'").toList.take 3 = _ at hstart
    simp at hstart
  | operatorFound k =>
    change ("expected an expression, found " ++ k.title ++ " operator").toList.take 3 = _ at hstart
    simp at hstart
  | commandFound c =>
    change ("expected an expression, found " ++ shown c).toList.take 3 = _ at hstart
    simp at hstart

lemma Expr.Reading.step_fault {s : Reading} {l : Lexeme} {e : SyntaxError}
    (h : s.step l = .error e) : e.fault.OfTokens := by
  obtain ⟨offset, token⟩ := l
  cases s with
  | operand ws ps => cases token <;> cases h <;> trivial
  | operator a ps => cases token <;> cases ps <;> cases h <;> trivial

lemma Expr.ofTokens_fault {last : Nat} {ls : List Lexeme} {e : SyntaxError}
    (h : Expr.ofTokens last ls = .error e) : e.fault.OfTokens := by
  rw [Expr.ofTokens] at h
  cases hrun : Reading.run .start ls with
  | error e' =>
    rw [hrun] at h
    cases h
    obtain ⟨_, _, _, _, -, -, hstep⟩ := Reading.exists_step_of_run_error hrun
    exact Reading.step_fault hstep
  | ok s =>
    rw [hrun] at h
    rcases s with _ | ⟨_, _ | _⟩ <;> cases h <;> trivial

namespace Statement

lemma ofTokens_fault {last : Nat} {ls : List Lexeme} {e : SyntaxError}
    (h : ofTokens last ls = .error e) : e.fault.OfTokens := by
  rw [ofTokens.eq_def] at h
  split at h
  · cases h
  · cases h
    trivial
  · next =>
    cases he : Expr.ofTokens last ls with
    | error e' =>
      rw [he] at h
      cases h
      exact Expr.ofTokens_fault he
    | ok a =>
      rw [he] at h
      cases h

lemma fault_of_message {text : String} {e : SyntaxError} (h : parse text = .error e)
    (hmessage : e.fault.message = "unterminated operator parameter") :
    Lexer.lex text.toList = .error e ∧ e.fault = .unterminatedParameter := by
  have hfault := SyntaxFault.eq_of_message hmessage
  rw [parse] at h
  cases hlex : Lexer.lex text.toList with
  | error e' =>
    rw [hlex] at h
    obtain rfl : e' = e := Except.error.inj h
    obtain ⟨_, _, _, _, -, -, -, htake⟩ := Lexer.exists_reaches_of_error hlex
    refine ⟨rfl, hfault.resolve_right ?_⟩
    rintro ⟨text, hother⟩
    rw [hother] at htake
    rcases Lexer.take_fault htake with ⟨hf, -⟩ | hf | ⟨_, hf | hf | hf⟩ <;> cases hf
  | ok ls =>
    rw [hlex] at h
    have hkind := ofTokens_fault h
    rcases hfault with hf | ⟨text, hf⟩
    all_goals
      rw [hf] at hkind
      exact hkind.elim

/-- **In a complete statement every parameter that reading comes to is closed**, whatever braces and
quotes stand outside its parameters. So no complete statement is refused for a parameter that is
not. -/
theorem complete_closes_parameters (b : String) (i : Nat) (h : Statement.end? b.toList = some i) :
    ∃ text rest : String, b = text ++ ";" ++ rest ∧ Text.width text.toList = i ∧
      (∀ e, parse text = .error e → e.fault.message ≠ "unterminated operator parameter") ∧
      ∀ ts w word cs, text.toList = w ++ ('\\' :: word ++ '_' :: '{' :: cs) →
        Lexer.Reaches 0 ts w ('\\' :: word ++ '_' :: '{' :: cs) →
        (∀ c ∈ word, c.isAlpha = true) →
        ∃ body rest, cs = body ++ '}' :: rest ∧ Lexer.Enclosed body := by
  obtain ⟨⟨text, rest⟩, hcut, rfl⟩ := Option.map_eq_some_iff.mp h
  obtain ⟨hb, -, hrun⟩ := cut_eq_some_iff.mp hcut
  have hclosed (ts : List Lexeme) (w word cs : List Char)
      (htext : text = w ++ ('\\' :: word ++ '_' :: '{' :: cs))
      (hw : Lexer.Reaches 0 ts w ('\\' :: word ++ '_' :: '{' :: cs))
      (hword : ∀ c ∈ word, c.isAlpha = true) :
      ∃ body rest, cs = body ++ '}' :: rest ∧ Lexer.Enclosed body :=
    hw.parameter_closed hword (htext ▸ hrun)
  refine ⟨String.ofList text, String.ofList rest, ?_, by rw [String.toList_ofList], ?_, ?_⟩
  · apply String.toList_inj.mp
    simp [hb]
  · intro e he hmessage
    obtain ⟨hlex, hfault⟩ := fault_of_message he hmessage
    rw [String.toList_ofList] at hlex
    obtain ⟨ts, w, c, cs, htext, hw, -, htake⟩ := Lexer.exists_reaches_of_error hlex
    rw [hfault] at htake
    rcases Lexer.take_fault htake with ⟨-, word, rest, hcs, hword, hclose⟩ | hf | ⟨_, hf | hf | hf⟩
    · rw [hcs] at htext hw
      obtain ⟨body, rest', hrest⟩ := hclosed ts w word rest htext hw hword
      rw [Lexer.closeParameter_opened.mpr hrest] at hclose
      cases hclose
    all_goals cases hf
  · rw [String.toList_ofList]
    exact hclosed

/-- A brace and a quote that stand outside the parameters. -/
def strayed : String := "\\select_\x7b a = '\x7d;' \x7d R \x7d ' ; \x7b"

theorem strayed_closes_parameters :
    Statement.end? strayed.toList = some 27 ∧
      (∃ text rest, strayed = text ++ ";" ++ rest ∧ Text.width text.toList = 27 ∧
        ∀ e, parse text = .error e → e.fault.message ≠ "unterminated operator parameter") ∧
      parse "\\select_\x7b a = '\x7d;' \x7d R \x7d ' " = .error ⟨23, .unexpectedCharacter '}'⟩ := by
  have hend : Statement.end? strayed.toList = some 27 := by decide +kernel
  obtain ⟨text, rest, hb, hwidth, hfault, -⟩ := complete_closes_parameters strayed 27 hend
  exact ⟨hend, ⟨text, rest, hb, hwidth, hfault⟩, by decide +kernel⟩

end Statement

end RelAlgebra
