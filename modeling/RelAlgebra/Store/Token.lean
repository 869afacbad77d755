import RelAlgebra.Decimal.Shortest
import RelAlgebra.Text.Width

/-!
The tokens of SQL statements. A statement ends with a semicolon or with the text; semicolons before
it belong to it.
-/

namespace RelAlgebra.Store

inductive Lexeme where
  | word (name : String)
  /-- A name between quotes that are not those of texts. -/
  | quoted (name : String)
  | integer (n : Nat)
  | real (d : Decimal)
  | text (s : String)
  | blob (bytes : List UInt8)
  | symbol (c : Char)
  /-- A number with its digits grouped in a wrong way. -/
  | misgrouped
  | unknown
  deriving DecidableEq, Repr

/-- A lexeme, the text it was read from and the byte of its statement at which it starts. -/
structure Token where
  lexeme : Lexeme
  source : List Char
  offset : Nat
  deriving DecidableEq, Repr

namespace Token

/-- A character between tokens. A byte order mark is one of them. -/
def isSpace (c : Char) : Bool :=
  c == ' ' || c == '\t' || c == '\n' || c == '\x0c' || c == '\r' || c == '\uFEFF'

def isNameStart (c : Char) : Bool := c.isAlpha || c == '_' || 0x80 ≤ c.toNat

def isNameChar (c : Char) : Bool := isNameStart c || c.isDigit || c == '$'

/-- The text up to the quote that closes it, and the number of characters read. Two quotes stand
for one. -/
def closeQuote (quote : Char) : List Char → Option (List Char × Nat)
  | [] => none
  | [c] => if c = quote then some ([], 1) else none
  | c :: d :: cs =>
    if c ≠ quote then (closeQuote quote (d :: cs)).map fun (text, n) => (c :: text, n + 1)
    else if d = quote then (closeQuote quote cs).map fun (text, n) => (quote :: text, n + 2)
    else some ([], 1)

def hexValue? (c : Char) : Option Nat :=
  if c.isDigit then some (c.toNat - '0'.toNat)
  else
    let n := c.toLower.toNat - 'a'.toNat
    if 'a' ≤ c.toLower ∧ n < 6 then some (n + 10) else none

/-- The bytes of pairs of hexadecimal digits. -/
def hexBytes? : List Char → Option (List UInt8)
  | [] => some []
  | [_] => none
  | a :: b :: cs => do
    return UInt8.ofNat (16 * (← hexValue? a) + (← hexValue? b)) :: (← hexBytes? cs)

def natural (digits : List Char) : Nat :=
  digits.foldl (fun n c => 10 * n + (c.toNat - '0'.toNat)) 0

/-- Stands between digits to make groups of them. -/
def separator : Char := '_'

def isDigitOrSeparator (c : Char) : Bool := c.isDigit || c == separator

/-- Every separator stands between two digits. -/
def isGrouped : List Char → Bool
  | a :: b :: c :: cs =>
    (b != separator || (a != separator && c != separator)) && isGrouped (b :: c :: cs)
  | [a, b] => a != separator && b != separator
  | [a] => a != separator
  | [] => true

/-- Digits as they are written, with separators. -/
structure Digits where
  written : List Char

namespace Digits

def ofStart (cs : List Char) : Digits := ⟨cs.takeWhile isDigitOrSeparator⟩

def digits (d : Digits) : List Char := d.written.filter (· != separator)

end Digits

/-- The digits after the point, if there is one, and the number of characters read. -/
def fraction : List Char → Digits × Nat
  | '.' :: cs =>
    let places := Digits.ofStart cs
    (places, places.written.length + 1)
  | _ => (⟨[]⟩, 0)

/-- The number of an exponent. Digits after those that exceed all doubles bring it back to a number
that still does. -/
def power (digits : List Char) : Nat :=
  digits.foldl (fun n c => if n < 10000 then 10 * n + (c.toNat - '0'.toNat) else 10000) 0

/-- The sign and the digits of the exponent, if there is one, and the number of characters read. -/
def exponent : List Char → Int × Digits × Nat
  | c :: cs =>
    let (sign, signed, body) := match cs with
      | '+' :: ds => ((1 : Int), 1, ds)
      | '-' :: ds => (-1, 1, ds)
      | ds => (1, 0, ds)
    if c.toLower = 'e' ∧ body.head?.any Char.isDigit then
      let d := Digits.ofStart body
      (sign, d, 1 + signed + d.written.length)
    else (1, ⟨[]⟩, 0)
  | [] => (1, ⟨[]⟩, 0)

/-- A number in decimal at the start of a text, and the number of characters read. -/
def decimal (cs : List Char) : Lexeme × Nat :=
  let whole := Digits.ofStart cs
  let rest := cs.drop whole.written.length
  let (places, pointed) := fraction rest
  let (sign, power', powered) := exponent (rest.drop pointed)
  let size := whole.written.length + pointed + powered
  let lexeme :=
    if !([whole, places, power'].all fun d => isGrouped d.written) then .misgrouped
    else if pointed = 0 ∧ powered = 0 then .integer (natural whole.digits)
    else
      .real ⟨natural (whole.digits ++ places.digits),
        sign * power power'.digits - places.digits.length⟩
  (lexeme, size)

/-- A number in base sixteen after its mark, and the number of characters read. -/
def hexadecimal (cs : List Char) : Lexeme × Nat :=
  let written := cs.takeWhile fun c => (hexValue? c).isSome || c == separator
  let value := (written.filterMap hexValue?).foldl (fun n d => 16 * n + d) 0
  (if isGrouped written ∧ value < Nat.pow 2 63 then .integer value else .misgrouped,
    written.length)

/-- The number at the start of a text, and the number of characters read. -/
def number (cs : List Char) : Lexeme × Nat :=
  let (lexeme, size) := match cs with
    | '0' :: x :: d :: ds =>
      if x.toLower = 'x' ∧ (hexValue? d).isSome then
        let (lexeme, n) := hexadecimal (d :: ds)
        (lexeme, n + 2)
      else decimal cs
    | _ => decimal cs
  let trailing := (cs.drop size).takeWhile isNameChar
  if trailing ≠ [] then (.unknown, size + trailing.length) else (lexeme, size)

/-- The text up to the bracket that closes it, and the number of characters read. -/
def closeBracket (cs : List Char) : Option (List Char × Nat) :=
  let body := cs.takeWhile (· != ']')
  if body.length < cs.length then some (body, body.length + 1) else none

/-- The lexeme that starts with `c`, and how many of the characters after `c` belong to it. -/
def scan (c : Char) (cs : List Char) : Lexeme × Nat :=
  if c.toLower = 'x' ∧ cs.head? = some '\'' then
    match closeQuote '\'' (cs.drop 1) with
    | some (body, n) =>
      match hexBytes? body with
      | some bytes => (.blob bytes, n + 1)
      | none => (.unknown, n + 1)
    | none => (.unknown, cs.length)
  else if isNameStart c then
    let rest := cs.takeWhile isNameChar
    (.word (String.ofList (c :: rest)), rest.length)
  else if c.isDigit ∨ (c = '.' ∧ (cs.head?.any Char.isDigit)) then
    let (lexeme, n) := number (c :: cs)
    (lexeme, n - 1)
  else if c = '\'' then
    match closeQuote c cs with
    | some (body, n) => (.text (String.ofList body), n)
    | none => (.unknown, cs.length)
  else if c = '"' ∨ c = '\x60' ∨ c = '[' then
    match if c = '[' then closeBracket cs else closeQuote c cs with
    | some (body, n) => (.quoted (String.ofList body), n)
    | none => (.unknown, cs.length)
  else (.symbol c, 0)

/-- The tokens up to a semicolon, and the text after it. A semicolon before the first token does not
count. -/
def readFrom (offset : Nat) (isFirst : Bool) : List Char → List Token × Option (List Char)
  | [] => ([], none)
  | c :: cs =>
    if isSpace c || (c == ';' && isFirst) then readFrom (offset + c.utf8Size) isFirst cs
    else if c = ';' then ([], some cs)
    else
      let taken := scan c cs
      let source := c :: cs.take taken.2
      let (tokens, rest) := readFrom (offset + Text.width source) false (cs.drop taken.2)
      (⟨taken.1, source, offset⟩ :: tokens, rest)
termination_by cs => cs.length
decreasing_by all_goals simp only [List.length_drop, List.length_cons]; omega

theorem length_readFrom (offset : Nat) (isFirst : Bool) (cs : List Char) {rest : List Char}
    (h : (readFrom offset isFirst cs).2 = some rest) : rest.length < cs.length := by
  fun_induction readFrom offset isFirst cs with
  | case1 => simp at h
  | case2 offset isFirst c cs _ ih =>
    have := ih h
    simp only [List.length_cons]
    omega
  | case3 => simp_all
  | case4 offset isFirst c cs _ _ taken source tokens rest' heq ih =>
    have := ih (by rw [heq]; exact h)
    simp only [List.length_drop] at this
    simp only [List.length_cons]
    omega

end Token

/-- One statement of a text. -/
structure Piece where
  tokens : List Token
  /-- The text from the start of the statement to the end, other statements included. -/
  sql : List Char
  /-- The byte at which its semicolon stands. -/
  semicolon : Option Nat
  deriving DecidableEq, Repr

/-- The statement from a byte to the end of its last token. -/
def Piece.textFrom (p : Piece) (offset : Nat) : List Char :=
  let last := (p.tokens.getLast?.map fun t => t.offset + Text.width t.source).getD offset
  let after := ((Text.splitAt? offset p.sql).map Prod.snd).getD []
  ((Text.splitAt? (last - offset) after).map Prod.fst).getD []

/-- The statements of a text. Only the last one may be empty. -/
def pieces (sql : List Char) : List Piece :=
  match h : (Token.readFrom 0 true sql).2 with
  | none => [⟨(Token.readFrom 0 true sql).1, sql, none⟩]
  | some rest =>
    let semicolon := Text.width sql - Text.width rest - 1
    ⟨(Token.readFrom 0 true sql).1, sql, some semicolon⟩ :: pieces rest
termination_by sql.length
decreasing_by exact Token.length_readFrom 0 true sql h

end RelAlgebra.Store
