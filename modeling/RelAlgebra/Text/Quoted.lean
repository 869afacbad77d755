import RelAlgebra.Text.Unprintable

/-!
Texts between double quotes, as they are shown inside a message.
-/

namespace RelAlgebra.Text

/-- A character inside a quoted text. Quotes and backslashes are escaped, and unprintable
characters are given by name or by code. -/
def escape (c : Char) : List Char :=
  if c = '"' ∨ c = '\\' then ['\\', c]
  else if c = '\n' then ['\\', 'n']
  else if c = '\r' then ['\\', 'r']
  else if c = '\t' then ['\\', 't']
  else if c.toNat = 0 then ['\\', '0']
  else if isUnprintable c then
    ['\\', 'u', '\x7b'] ++ Nat.toDigits 16 c.toNat ++ ['\x7d']
  else [c]

/-- The text between double quotes. -/
def quoted (text : String) : String :=
  String.ofList ('"' :: text.toList.flatMap escape ++ ['"'])

end RelAlgebra.Text
