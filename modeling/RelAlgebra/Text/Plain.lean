import RelAlgebra.Text.Utf8

/-!
Texts without what only a terminal understands: control characters other than blanks, and control
sequences, which start with an escape character.
-/

namespace RelAlgebra.Text

/-- How far a control sequence has been read. -/
inductive Control where
  /-- No sequence is read. -/
  | none
  | escape
  /-- Only the last character of the sequence is still to come. -/
  | ending
  | parameters
  /-- Before the text of a message to a device. -/
  | heading
  /-- Inside a text that a bell ends. -/
  | title
  /-- Inside a text that a string terminator ends. -/
  | message
  deriving DecidableEq, Repr

namespace Control

def isAscii (c : Char) : Bool := c.toNat < 0x80

/-- The blanks among the control characters. -/
def isLayout (c : Char) : Bool := c == '\t' || c == '\n' || c == '\x0c' || c == '\r'

def isShown (c : Char) : Bool :=
  !isAscii c || isLayout c || (0x20 ≤ c.toNat && c.toNat < 0x7F)

/-- Another sequence, or a cancelling character, ends any sequence. -/
def restart? (c : Char) : Option Control :=
  if c = '\x1b' then some escape
  else if c = '\x18' ∨ c = '\x1a' then some none
  else Option.none

/-- The character that tells what kind of sequence an escape character starts. -/
def afterEscape (c : Char) : Control :=
  if c = '[' then parameters
  else if c = ']' then title
  else if c = 'P' then heading
  else if c = 'X' ∨ c = '^' ∨ c = '_' then message
  else none

/-- The state after a character that belongs to a sequence. -/
def next (s : Control) (c : Char) : Control :=
  let n := c.toNat
  match s with
  | none => none
  | escape =>
    if 0x30 ≤ n ∧ n < 0x7F then afterEscape c else if 0x20 ≤ n ∧ n < 0x30 then ending else escape
  | ending => if 0x30 ≤ n ∧ n < 0x7F then none else ending
  | parameters => if 0x40 ≤ n ∧ n < 0x7F then none else parameters
  | heading => if 0x40 ≤ n ∧ n < 0x7F then message else heading
  | title => if n = 7 then none else title
  | message => if !isAscii c ∧ 0x9C ∈ bytes c.toString then none else message

/-- Blank controls are shown also inside the sequences that are no texts. -/
def shows (s : Control) (c : Char) : Bool :=
  match s with
  | none => isShown c
  | escape | ending | parameters => isLayout c
  | heading | title | message => false

end Control

/-- What has been read of a text. A blank control inside a sequence interrupts it until the next
character that is not shown. -/
structure Display where
  control : Control := .none
  showing : Bool := false
  deriving DecidableEq, Repr

namespace Display

/-- The state after a character, and whether the character is shown. -/
def step (d : Display) (c : Char) : Display × Bool :=
  if d.showing && Control.isShown c then
    ({ d with control := if Control.isAscii c then d.control else .none }, true)
  else
    match Control.restart? c with
    | some control => (⟨control, false⟩, false)
    | none =>
      if d.control.shows c then (⟨d.control, true⟩, true)
      else (⟨d.control.next c, false⟩, false)

def shown (d : Display) : List Char → List Char
  | [] => []
  | c :: cs =>
    let (d, isShown) := d.step c
    if isShown then c :: d.shown cs else d.shown cs

end Display

/-- The text as it is shown without a terminal. -/
def plain (text : String) : String := String.ofList (Display.shown {} text.toList)

end RelAlgebra.Text
