/-!
Finding a text inside another one, and the order of texts.
-/

namespace RelAlgebra.Text

/-- The text `key` stands somewhere in the second one. -/
def occursIn (key : List Char) : List Char → Bool
  | [] => key.isEmpty
  | c :: cs => key.isPrefixOf (c :: cs) || occursIn key cs

/-- Texts in the order of their code points, which is that of their UTF-8 bytes. -/
def sorted (texts : List String) : List String := texts.mergeSort fun a b => decide (a ≤ b)

end RelAlgebra.Text
