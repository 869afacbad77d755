import RelAlgebra.Decimal.Shortest

/-!
Doubles as texts of a fixed number of digits. The zeros at the end are left out, but one digit after
the point is always written, and an exponent only if there would be many zeros.
-/

namespace RelAlgebra

namespace Double

/-- The nearest decimal of so many digits. In the middle of two of them the larger one is taken. -/
def rounded (x : Double) (digits : Nat) : Decimal :=
  let exponent := x.scale - digits
  let below : Decimal := ⟨x.multiples exponent, exponent⟩
  let nearest := if x.isNearer below then below.digits else below.digits + 1
  if nearest = Nat.pow 10 digits then ⟨Nat.pow 10 (digits - 1), exponent + 1⟩
  else ⟨nearest, exponent⟩

end Double

namespace Decimal

/-- The digits after the point, of which there is always one. -/
def places (cs : List Char) : List Char :=
  match (cs.reverse.dropWhile (· == '0')).reverse with
  | [] => ['0']
  | ds => ds

/-- The exponent with its sign and at least two digits. -/
def exponentText (n : Int) : String :=
  let digits := toString n.natAbs
  (if n < 0 then "e-" else "e+") ++ (if digits.length < 2 then "0" else "") ++ digits

/-- The text of a decimal whose first digit is not zero. Numbers that are less than `10 ^ -4`, or
have more digits before the point than there are, are written with an exponent. -/
def compactText (d : Decimal) : String :=
  let digits := (toString d.digits).toList
  let magnitude := d.exponent + digits.length - 1
  let joined := fun (whole rest : List Char) => String.ofList (whole ++ '.' :: places rest)
  if magnitude < -4 ∨ (digits.length : Int) ≤ magnitude then
    joined (digits.take 1) (digits.drop 1) ++ exponentText magnitude
  else if magnitude < 0 then
    joined ['0'] (List.replicate (-magnitude - 1).toNat '0' ++ digits)
  else joined (digits.take (magnitude.toNat + 1)) (digits.drop (magnitude.toNat + 1))

/-- A double with fifteen digits. -/
def compactOfFloat (x : Float) : String :=
  let bits := x.toBits.toNat
  let sign := if bits / Nat.pow 2 63 = 1 then "-" else ""
  let exponent := bits / Nat.pow 2 52 % Nat.pow 2 11
  let fraction := bits % Nat.pow 2 52
  if exponent = 2047 then
    if fraction = 0 then sign ++ "Inf" else "NaN"
  else if exponent = 0 ∧ fraction = 0 then "0.0"
  else sign ++ ((Double.ofFields exponent fraction).rounded 15).compactText

end Decimal

end RelAlgebra
