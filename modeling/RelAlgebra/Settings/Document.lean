/-!
The part of TOML in which settings are written: lines `key = text`, comments and blank lines. A
key is a bare word or a quoted text; a value is a text in one of the four quotations.
-/

namespace RelAlgebra.Settings

/-- Blanks inside a line. -/
def isSpace (c : Char) : Bool := c == ' ' || c == '\t'

/-- Characters that may stand in a quoted text or a comment: no controls but the tab. -/
def isTextual (c : Char) : Bool := c == '\t' || (0x20 ≤ c.toNat && c.toNat != 0x7F)

/-- Characters of an unquoted key. -/
def isBare (c : Char) : Bool := c.isAlphanum || c == '_' || c == '-'

def hexValue? (c : Char) : Option Nat :=
  if c.isDigit then some (c.toNat - '0'.toNat)
  else if 'a' ≤ c ∧ c ≤ 'f' then some (c.toNat - 'a'.toNat + 10)
  else if 'A' ≤ c ∧ c ≤ 'F' then some (c.toNat - 'A'.toNat + 10)
  else none

/-- The character whose code is written in the first `n` characters as hexadecimal digits. -/
def charOfHex? (n : Nat) (cs : List Char) : Option Char :=
  let digits := cs.take n
  if digits.length = n then do
    let code ← digits.foldlM (fun code c => (hexValue? c).map (16 * code + ·)) 0
    if code.isValidChar then some (Char.ofNat code) else none
  else none

/-- The character of an escape sequence, and the number of characters after the backslash that it
takes. -/
def escape? : List Char → Option (Char × Nat)
  | 'b' :: _ => some ('\x08', 1)
  | 't' :: _ => some ('\t', 1)
  | 'n' :: _ => some ('\n', 1)
  | 'f' :: _ => some ('\x0c', 1)
  | 'r' :: _ => some ('\r', 1)
  | 'e' :: _ => some ('\x1b', 1)
  | '"' :: _ => some ('"', 1)
  | '\\' :: _ => some ('\\', 1)
  | 'x' :: cs => (charOfHex? 2 cs).map (·, 3)
  | 'u' :: cs => (charOfHex? 4 cs).map (·, 5)
  | 'U' :: cs => (charOfHex? 8 cs).map (·, 9)
  | _ => none

/-- A text after its opening double quote, and what follows its closing one. -/
def basicText (cs : List Char) : Option (List Char × List Char) :=
  match cs with
  | [] => none
  | c :: cs =>
    if c = '"' then some ([], cs)
    else if c = '\\' then
      match escape? cs with
      | some (d, n) => (basicText (cs.drop n)).map fun (text, rest) => (d :: text, rest)
      | none => none
    else if isTextual c then (basicText cs).map fun (text, rest) => (c :: text, rest)
    else none
termination_by cs.length
decreasing_by all_goals (simp only [List.length_drop, List.length_cons]; omega)

/-- A text after its opening single quote, and what follows its closing one. -/
def literalText : List Char → Option (List Char × List Char)
  | [] => none
  | c :: cs =>
    if c = '\'' then some ([], cs)
    else if isTextual c then (literalText cs).map fun (text, rest) => (c :: text, rest)
    else none

/-- The text without the line end it starts with. -/
def dropNewline : List Char → List Char
  | '\n' :: cs => cs
  | '\r' :: '\n' :: cs => cs
  | cs => cs

/-- The text without the spaces and line ends it starts with. -/
def dropBlankLines : List Char → List Char
  | '\r' :: '\n' :: cs => dropBlankLines cs
  | c :: cs => if isSpace c || c == '\n' then dropBlankLines cs else c :: cs
  | [] => []

theorem length_dropBlankLines (cs : List Char) : (dropBlankLines cs).length ≤ cs.length := by
  fun_induction dropBlankLines cs with
  | case1 cs ih => simp only [List.length_cons]; omega
  | case2 c cs _ _ ih => simp only [List.length_cons]; omega
  | case3 => simp
  | case4 => simp

/-- What follows a backslash at the end of a line: the text from the next character that is no
blank. -/
def continued? (cs : List Char) : Option (List Char) :=
  match cs.dropWhile isSpace with
  | '\n' :: rest => some (dropBlankLines rest)
  | '\r' :: '\n' :: rest => some (dropBlankLines rest)
  | _ => none

theorem length_continued {cs rest : List Char} (h : continued? cs = some rest) :
    rest.length ≤ cs.length := by
  have hd : (cs.dropWhile isSpace).length ≤ cs.length := (List.dropWhile_sublist _).length_le
  simp only [continued?] at h
  split at h
  next r hr =>
    have := length_dropBlankLines r
    simp only [hr, List.length_cons] at hd
    cases h
    omega
  next r hr =>
    have := length_dropBlankLines r
    simp only [hr, List.length_cons] at hd
    cases h
    omega
  next => cases h

/-- The number of quotes at the start. -/
def quotes (quote : Char) (cs : List Char) : Nat := (cs.takeWhile (· == quote)).length

/-- A text of several lines after its three opening double quotes, and what follows the closing
ones. One or two quotes may stand before the closing ones. -/
def basicLines (cs : List Char) : Option (List Char × List Char) :=
  match cs with
  | [] => none
  | c :: cs =>
    if c = '"' then
      let n := quotes '"' cs
      if 2 ≤ n then
        let extra := min (n - 2) 2
        some (List.replicate extra '"', cs.drop (2 + extra))
      else
        (basicLines (cs.drop n)).map fun (text, rest) =>
          (List.replicate (n + 1) '"' ++ text, rest)
    else if c = '\\' then
      match escape? cs with
      | some (d, n) => (basicLines (cs.drop n)).map fun (text, rest) => (d :: text, rest)
      | none =>
        match _h : continued? cs with
        | some rest => basicLines rest
        | none => none
    else if c = '\r' then
      match cs with
      | '\n' :: cs => (basicLines cs).map fun (text, rest) => ('\r' :: '\n' :: text, rest)
      | _ => none
    else if c = '\n' || isTextual c then
      (basicLines cs).map fun (text, rest) => (c :: text, rest)
    else none
termination_by cs.length
decreasing_by
  · simp only [List.length_drop, List.length_cons]; omega
  · simp only [List.length_drop, List.length_cons]; omega
  · have := length_continued ‹_›
    simp only [List.length_cons]
    omega
  · simp only [List.length_cons]; omega
  · simp

/-- A text of several lines after its three opening single quotes, and what follows the closing
ones. -/
def literalLines (cs : List Char) : Option (List Char × List Char) :=
  match cs with
  | [] => none
  | c :: cs =>
    if c = '\'' then
      let n := quotes '\'' cs
      if 2 ≤ n then
        let extra := min (n - 2) 2
        some (List.replicate extra '\'', cs.drop (2 + extra))
      else
        (literalLines (cs.drop n)).map fun (text, rest) =>
          (List.replicate (n + 1) '\'' ++ text, rest)
    else if c = '\r' then
      match cs with
      | '\n' :: cs => (literalLines cs).map fun (text, rest) => ('\r' :: '\n' :: text, rest)
      | _ => none
    else if c = '\n' || isTextual c then
      (literalLines cs).map fun (text, rest) => (c :: text, rest)
    else none
termination_by cs.length
decreasing_by all_goals (simp only [List.length_drop, List.length_cons]; omega)

/-- A value, and what follows it. -/
def value? : List Char → Option (List Char × List Char)
  | '"' :: '"' :: '"' :: cs => basicLines (dropNewline cs)
  | '\'' :: '\'' :: '\'' :: cs => literalLines (dropNewline cs)
  | '"' :: cs => basicText cs
  | '\'' :: cs => literalText cs
  | _ => none

/-- A key, and what follows it. -/
def key? : List Char → Option (List Char × List Char)
  | '"' :: cs => basicText cs
  | '\'' :: cs => literalText cs
  | cs =>
    let key := cs.takeWhile isBare
    if key.isEmpty then none else some (key, cs.dropWhile isBare)

/-- What follows the end of a line, if only spaces and a comment stand before it. -/
def lineEnd? (cs : List Char) : Option (List Char) :=
  match cs.dropWhile isSpace with
  | '#' :: rest => newline? (rest.dropWhile isTextual)
  | rest => newline? rest
where
  /-- What follows a line end, or nothing at the end of the document. -/
  newline? : List Char → Option (List Char)
    | [] => some []
    | '\n' :: rest => some rest
    | '\r' :: '\n' :: rest => some rest
    | _ => none

/-- A key and its value. -/
structure Entry where
  key : String
  value : String
  deriving DecidableEq, Repr

/-- An entry, and what follows its line. -/
def entry? (cs : List Char) : Option (Entry × List Char) := do
  let (key, rest) ← key? (cs.dropWhile isSpace)
  match rest.dropWhile isSpace with
  | '=' :: rest =>
    let (value, rest) ← value? (rest.dropWhile isSpace)
    let rest ← lineEnd? rest
    some (⟨String.ofList key, String.ofList value⟩, rest)
  | _ => none

/-- The entries of a document, in order. -/
def entries? (cs : List Char) : Option (List Entry) :=
  if cs.isEmpty then some []
  else
    match lineEnd? cs with
    | some rest => if rest.length < cs.length then entries? rest else none
    | none =>
      match entry? cs with
      | some (entry, rest) =>
        if rest.length < cs.length then (entries? rest).map (entry :: ·) else none
      | none => none
termination_by cs.length

/-- The entries of a document, which may start with a byte order mark. -/
def document? (text : String) : Option (List Entry) :=
  match text.toList with
  | '\uFEFF' :: cs => entries? cs
  | cs => entries? cs

end RelAlgebra.Settings
