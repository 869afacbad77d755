import RelAlgebra.Text.Blank
import RelAlgebra.Text.Width

/-!
Completing the operator word before the cursor.
-/

namespace RelAlgebra.Shell

/-- The words to complete to, in the order in which they are offered. -/
def keywords : List String :=
  ["\\select_\x7b", "\\project_\x7b", "\\join", "\\join_\x7b", "\\cross", "\\union", "\\diff",
    "\\intersect", "\\rename_\x7b", "\\help", "\\quit", "\\list", "\\sqlexec_\x7b"]

/-- Stands between two words. -/
def isSeparator (c : Char) : Bool :=
  Text.isBlank c || c == '(' || c == ')' || c == ';' || c == '}'

/-- The byte offset of the text to replace, and what to replace it with. -/
structure Completion where
  start : Nat
  candidates : List String
  deriving DecidableEq, Repr

/-- The keywords that a word begins. The case of its letters does not matter. -/
def candidates (word : List Char) : List String :=
  keywords.filter fun k => (word.map Char.toLower).isPrefixOf k.toList

/-- The byte offset at which the last separator of a text starts. -/
def lastSeparator? : List Char → Option Nat
  | [] => none
  | c :: cs =>
    match lastSeparator? cs with
    | some i => some (c.utf8Size + i)
    | none => if isSeparator c then some 0 else none

/-- Where the last word of a text starts: one byte after the start of the last separator. -/
def wordStart (head : List Char) : Nat :=
  match lastSeparator? head with
  | some i => i + 1
  | none => 0

/-- Completes the word that ends at a byte offset. There is no answer where the word would start
inside a separator. -/
def complete (line : String) (pos : Nat) : Option Completion :=
  match Text.splitAt? pos line.toList with
  | none => some ⟨pos, []⟩
  | some (head, _) =>
    (Text.splitAt? (wordStart head) head).map fun (_, word) =>
      match word with
      | '\\' :: _ => ⟨wordStart head, candidates word⟩
      | _ => ⟨pos, []⟩

end RelAlgebra.Shell
