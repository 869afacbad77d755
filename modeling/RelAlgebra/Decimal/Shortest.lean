/-!
Doubles in decimal. Of the decimals that read back as a double the shortest is taken, and of the
shortest the nearest. It is found with exact arithmetic on natural numbers, by trying one digit,
two digits and so on.
-/

namespace RelAlgebra

/-- The number `digits * 10 ^ exponent`. -/
structure Decimal where
  digits : Nat
  exponent : Int
  deriving DecidableEq, Repr

namespace Decimal

def numerator (d : Decimal) : Nat := d.digits * Nat.pow 10 d.exponent.toNat

def denominator (d : Decimal) : Nat := Nat.pow 10 (-d.exponent).toNat

/-- A fraction of so many places in decimal, without the zeros at its end. -/
def fractionText (places fraction : Nat) : String :=
  let digits := (toString fraction).toList
  let padded := List.replicate (places - digits.length) '0' ++ digits
  match (padded.reverse.dropWhile (· == '0')).reverse with
  | [] => ""
  | cs => String.ofList ('.' :: cs)

/-- All digits without an exponent, with a point only if digits other than zero follow it. -/
def text (d : Decimal) : String :=
  toString (d.numerator / d.denominator) ++
    fractionText (-d.exponent).toNat (d.numerator % d.denominator)

end Decimal

/-- A positive double, `significand * 2 ^ exponent`. -/
structure Double where
  significand : Nat
  exponent : Int
  /-- The next smaller double is half as far away as the next larger one. -/
  nearBelow : Bool
  deriving DecidableEq, Repr

namespace Double

/-- The double of a biased exponent and the bits of its fraction. -/
def ofFields (exponent fraction : Nat) : Double :=
  if exponent = 0 then ⟨fraction, -1074, false⟩
  else ⟨Nat.pow 2 52 + fraction, (exponent : Int) - 1075, decide (fraction = 0 ∧ 1 < exponent)⟩

/-- The numerator of so many quarters of the last place. -/
def quarters (x : Double) (n : Nat) : Nat := n * Nat.pow 2 x.exponent.toNat

def denominator (x : Double) : Nat := 4 * Nat.pow 2 (-x.exponent).toNat

def numerator (x : Double) : Nat := x.quarters (4 * x.significand)

/-- The decimal lies between the midpoints to the two neighbours of the double. A midpoint is
read as the neighbour with an even significand. -/
def readsBack (x : Double) (d : Decimal) : Bool :=
  let value := d.numerator * x.denominator
  let low := x.quarters (4 * x.significand - if x.nearBelow then 1 else 2) * d.denominator
  let high := x.quarters (4 * x.significand + 2) * d.denominator
  if x.significand % 2 = 0 then low ≤ value && value ≤ high else low < value && value < high

def digitCount (n : Nat) : Nat := (toString n).length

/-- The least `k` such that the double is below `10 ^ k`. -/
def scale (x : Double) : Int :=
  if x.denominator ≤ x.numerator then digitCount (x.numerator / x.denominator)
  else 1 - (digitCount ((x.denominator - 1) / x.numerator) : Int)

/-- How often `10 ^ exponent` goes into the double. -/
def multiples (x : Double) (exponent : Int) : Nat :=
  x.numerator * Nat.pow 10 (-exponent).toNat / (x.denominator * Nat.pow 10 exponent.toNat)

/-- The double lies below the middle between the decimal and the next one with its exponent. -/
def isNearer (x : Double) (d : Decimal) : Bool :=
  2 * x.numerator * d.denominator
    < (2 * d.digits + 1) * Nat.pow 10 d.exponent.toNat * x.denominator

/-- The nearest decimal of so many digits, if it reads back. In the middle of two of them the
larger one is taken. -/
def withDigits? (x : Double) (digits : Nat) : Option Decimal :=
  let exponent := x.scale - digits
  let below : Decimal := ⟨x.multiples exponent, exponent⟩
  let above : Decimal := ⟨below.digits + 1, exponent⟩
  match x.readsBack below, x.readsBack above with
  | true, true => some (if x.isNearer below then below else above)
  | true, false => some below
  | false, true => some above
  | false, false => none

/-- The decimal that is equal to the double. -/
def exact (x : Double) : Decimal :=
  ⟨x.significand * Nat.pow 2 x.exponent.toNat * Nat.pow 5 (-x.exponent).toNat,
    if x.exponent < 0 then x.exponent else 0⟩

/-- The shortest decimal that reads back; seventeen digits are always enough. -/
def shortest (x : Double) : Decimal :=
  ((List.range 17).findSome? fun n => x.withDigits? (n + 1)).getD x.exact

end Double

/-- A double in decimal. -/
def Decimal.ofFloat (x : Float) : String :=
  let bits := x.toBits.toNat
  let sign := if bits / Nat.pow 2 63 = 1 then "-" else ""
  let exponent := bits / Nat.pow 2 52 % Nat.pow 2 11
  let fraction := bits % Nat.pow 2 52
  if exponent = 2047 then
    if fraction = 0 then sign ++ "inf" else "NaN"
  else if exponent = 0 ∧ fraction = 0 then sign ++ "0"
  else sign ++ (Double.ofFields exponent fraction).shortest.text

end RelAlgebra
