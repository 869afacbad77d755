import RelAlgebra.Error
import RelAlgebra.Nesting
import RelAlgebra.Text.Blank
import RelAlgebra.Text.Width

/-!
Reading the tokens of a text, each with the byte offset at which it starts. Blanks between tokens
are skipped; a parameter is kept without the blanks at its ends.
-/

namespace RelAlgebra

/-- A fault and the byte offset it is reported at. -/
structure SyntaxError where
  offset : Nat
  fault : SyntaxFault
  deriving DecidableEq, Repr

namespace Lexer

def isIdent (c : Char) : Bool := c.isAlphanum || c == '_' || c == '.'

/-- The text up to the brace that closes the parameter, and what follows the brace. -/
def closeParameter (n : Nesting) : List Char → Option (List Char × List Char)
  | [] => none
  | c :: cs =>
    if (n.step c).depth = 0 then some ([], cs)
    else (closeParameter (n.step c) cs).map fun (body, rest) => (c :: body, rest)

/-- A token, the number of bytes it takes and the text that follows it. -/
structure Taken where
  token : Token
  width : Nat
  rest : List Char

/-- The token of an operator word without its parameter. -/
def plainToken (word : List Char) (k : Keyword) (rest : List Char) : Except SyntaxFault Taken :=
  match k.token none with
  | .ok token => .ok ⟨token, 1 + Text.width word, rest⟩
  | .error _ => .error (.parameterRequired (String.ofList word))

/-- The token of an operator word and the parameter whose opening brace has been read. -/
def parameterToken (word : List Char) (k : Keyword) (cs : List Char) : Except SyntaxFault Taken :=
  match closeParameter .opened cs with
  | none => .error .unterminatedParameter
  | some (body, rest) =>
    match k.token (some (String.ofList (Text.trim body))) with
    | .ok token => .ok ⟨token, 1 + Text.width word + (2 + Text.width body + 1), rest⟩
    | .error _ => .error (.parameterForbidden (String.ofList word))

/-- The token of an operator word, with what follows the word. -/
def wordToken (word rest : List Char) : Except SyntaxFault Taken :=
  match Keyword.ofWord? word with
  | none => .error (.unknownOperator (String.ofList word))
  | some k =>
    match rest with
    | '_' :: '{' :: cs => parameterToken word k cs
    | _ => plainToken word k rest

/-- The token that starts with the character `c`, which is no blank. -/
def take (c : Char) (cs : List Char) : Except SyntaxFault Taken :=
  if c = '(' then .ok ⟨.lparen, 1, cs⟩
  else if c = ')' then .ok ⟨.rparen, 1, cs⟩
  else if c = '\\' then wordToken (cs.takeWhile Char.isAlpha) (cs.dropWhile Char.isAlpha)
  else if isIdent c then
    let name := c :: cs.takeWhile isIdent
    .ok ⟨.ident (String.ofList name), Text.width name, cs.dropWhile isIdent⟩
  else .error (.unexpectedCharacter c)

theorem length_closeParameter {n : Nesting} {cs body rest : List Char}
    (h : closeParameter n cs = some (body, rest)) : rest.length < cs.length := by
  induction cs generalizing n body with
  | nil => simp [closeParameter] at h
  | cons c cs ih =>
    simp only [closeParameter] at h
    split at h
    · simp_all
    · obtain ⟨⟨b, r⟩, hr, he⟩ := Option.map_eq_some_iff.1 h
      simp only [Prod.mk.injEq] at he
      have := ih (he.2 ▸ hr)
      simp only [List.length_cons]
      omega

theorem length_wordToken {word rest : List Char} {t : Taken} (h : wordToken word rest = .ok t) :
    t.rest.length ≤ rest.length := by
  simp only [wordToken] at h
  split at h
  · cases h
  split at h
  · simp only [parameterToken] at h
    split at h
    · cases h
    next hb =>
      split at h
      · cases h
        have := length_closeParameter hb
        simp only [List.length_cons]
        omega
      · cases h
  · simp only [plainToken] at h
    split at h
    · cases h; simp
    · cases h

theorem length_take {c : Char} {cs : List Char} {t : Taken} (h : take c cs = .ok t) :
    t.rest.length ≤ cs.length := by
  have hd (p : Char → Bool) : (cs.dropWhile p).length ≤ cs.length :=
    (List.dropWhile_sublist p).length_le
  simp only [take] at h
  split at h
  · cases h; simp
  split at h
  · cases h; simp
  split at h
  · exact Nat.le_trans (length_wordToken h) (hd _)
  split at h
  · cases h; exact hd _
  · cases h

/-- The tokens of a text that starts at a byte offset. -/
def lexFrom (offset : Nat) : List Char → Except SyntaxError (List Lexeme)
  | [] => .ok []
  | c :: cs =>
    if Text.isBlank c then lexFrom (offset + c.utf8Size) cs
    else
      match _h : take c cs with
      | .error fault => .error ⟨offset, fault⟩
      | .ok t => (lexFrom (offset + t.width) t.rest).map (⟨offset, t.token⟩ :: ·)
termination_by cs => cs.length
decreasing_by
  · simp
  · have := length_take ‹take c cs = .ok t›
    simp only [List.length_cons]
    omega

/-- The tokens of a text. -/
def lex (cs : List Char) : Except SyntaxError (List Lexeme) := lexFrom 0 cs

end Lexer

end RelAlgebra
