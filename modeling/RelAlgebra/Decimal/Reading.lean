import RelAlgebra.Decimal.Shortest

/-!
Reading a decimal as a double. Its leading digits are taken as a whole number, which is multiplied
by powers of ten. The products are rounded to 64 bits and only the last of them to a double, so the
double is close to the decimal but need not be the nearest one.
-/

namespace RelAlgebra

/-- The number `significand * 2 ^ exponent`. -/
structure Binary where
  significand : Nat
  exponent : Int
  deriving DecidableEq, Repr

namespace Binary

def bitCount (n : Nat) : Nat := if n = 0 then 0 else Nat.log2 n + 1

/-- The whole number nearest to `n / 2 ^ places`. A half goes to the even neighbour. -/
def dropBits (n places : Nat) : Nat :=
  let unit := Nat.pow 2 places
  let whole := n / unit
  let twice := 2 * (n % unit)
  if unit < twice ∨ (unit = twice ∧ whole % 2 = 1) then whole + 1 else whole

/-- The size of the significands between one step and the next. -/
def workingBits : Nat := 64

/-- The nearest number that has a significand of the working size. -/
def round (x : Binary) : Binary :=
  let places := bitCount x.significand - workingBits
  ⟨dropBits x.significand places, x.exponent + places⟩

def mul (x y : Binary) : Binary :=
  round ⟨x.significand * y.significand, x.exponent + y.exponent⟩

def tenPow (n : Nat) : Binary := round ⟨Nat.pow 10 n, 0⟩

/-- The inverse of `10 ^ n`. More bits are computed than are kept, and the last one tells whether
there is a remainder. -/
def tenthPow (n : Nat) : Binary :=
  let divisor := Nat.pow 10 n
  let places := workingBits + 2 + bitCount divisor
  let dividend := Nat.pow 2 places
  let remains := if dividend % divisor = 0 then 0 else 1
  round ⟨2 * (dividend / divisor) + remains, -(places + 1 : Nat)⟩

/-- The product with a power of ten, by steps of a hundred places, of ten places and of one. -/
def scale (x : Binary) (power : Int) : Binary :=
  let factor := if power < 0 then tenthPow else tenPow
  let places := power.natAbs
  let step := fun (size count : Nat) (x : Binary) => Nat.repeat (mul (factor size)) count x
  step 1 (places % 10) (step 10 (places % 100 / 10) (step 100 (places / 100) x))

/-- The last place of the smallest doubles. -/
def leastExponent : Int := -1074

/-- The number is larger than every finite double. -/
def isHuge (x : Binary) : Bool :=
  let largest := (Nat.pow 2 53 - 1) * Nat.pow 2 971
  largest * Nat.pow 2 (-x.exponent).toNat < x.significand * Nat.pow 2 x.exponent.toNat

/-- How many places of the number a double has no room for; fewer than none if some are free. -/
def spare (x : Binary) : Int :=
  let bySize := (bitCount x.significand : Int) - 53
  let byExponent := leastExponent - x.exponent
  if bySize < byExponent then byExponent else bySize

/-- The bits of the nearest double. A significand of 53 bits adds its leading one to the exponent
that stands before it. -/
def doubleBits (x : Binary) : Nat :=
  if x.significand = 0 then 0
  else if x.isHuge then 2047 * Nat.pow 2 52
  else
    let significand := dropBits (x.significand * Nat.pow 2 (-x.spare).toNat) x.spare.toNat
    (x.exponent + x.spare - leastExponent).toNat * Nat.pow 2 52 + significand

end Binary

namespace Decimal

/-- The leading digits. A digit more is kept as long as those before it are fewer than the limit,
so that they fit in 64 bits. -/
def leading (digits : Nat) (exponent : Int) : Decimal :=
  if h : 1844674407370955160 ≤ digits / 10 then leading (digits / 10) (exponent + 1)
  else ⟨digits, exponent⟩
termination_by digits
decreasing_by omega

/-- Takes places from a positive exponent while there is room for more digits. -/
def grow (digits : Nat) : Nat → Decimal
  | 0 => ⟨digits, 0⟩
  | n + 1 =>
    if digits < 1844674407370955161 then grow (10 * digits) n else ⟨digits, (n + 1 : Nat)⟩

/-- Takes the zeros at the end of the digits for places of a negative exponent. -/
def shrink (digits : Nat) : Nat → Decimal
  | 0 => ⟨digits, 0⟩
  | n + 1 => if digits % 10 = 0 then shrink (digits / 10) n else ⟨digits, -(n + 1 : Nat)⟩

/-- The decimal with an exponent that is closer to zero. -/
def settled (d : Decimal) : Decimal :=
  match d.exponent with
  | .ofNat n => grow d.digits n
  | .negSucc n => shrink d.digits (n + 1)

def toBinary (d : Decimal) : Binary :=
  let d := (leading d.digits d.exponent).settled
  Binary.scale ⟨d.digits, 0⟩ d.exponent

def toFloat (d : Decimal) : Float := Float.ofBits (UInt64.ofNat d.toBinary.doubleBits)

end Decimal

end RelAlgebra
