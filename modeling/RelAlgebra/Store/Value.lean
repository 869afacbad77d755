import RelAlgebra.Decimal.Reading
import RelAlgebra.Decimal.Rounded
import RelAlgebra.Sql.Rows
import RelAlgebra.Store.Token
import RelAlgebra.Text.Search

/-!
The values of a store, how they are compared, and what the type of a column makes of them.
-/

namespace RelAlgebra.Store

inductive Value where
  | null
  | integer (n : Int)
  | real (x : Float)
  | text (s : String)
  | blob (bytes : List UInt8)

namespace Value

def minInteger : Int := -9223372036854775808

def maxInteger : Int := 9223372036854775807

/-- The whole number that a double is equal to, if it takes no more than 64 bits. -/
def wholeOf? (x : Float) : Option Int :=
  let n := x.toInt64.toInt
  if Float.ofInt n == x && x < Float.ofInt maxInteger then some n else none

/-- Equal as rows are compared: numbers by what they stand for, and NULL is equal to itself. -/
def same : Value → Value → Bool
  | null, null => true
  | integer m, integer n => m == n
  | real x, real y => x == y
  | integer n, real x => wholeOf? x == some n
  | real x, integer n => wholeOf? x == some n
  | text s, text t => s == t
  | blob a, blob b => a == b
  | _, _ => false

instance : BEq Value := ⟨same⟩

/-- Equal as a condition compares them: nothing is known of NULL. -/
def equal : Value → Value → Sql.Truth
  | null, _ | _, null => .unknown
  | v, w => .ofBool (v == w)

/-- Where the kinds of values stand in the order of rows. -/
def rank : Value → Nat
  | null => 0
  | integer _ | real _ => 1
  | text _ => 2
  | blob _ => 3

/-- The whole number is less than the double. -/
def integerBelow (n : Int) (x : Float) : Bool :=
  match wholeOf? x.floor with
  | some m => decide (n < m) || (n == m && x.floor < x)
  | none => 0 < x

/-- The double is less than the whole number. -/
def realBelow (x : Float) (n : Int) : Bool :=
  match wholeOf? x.floor with
  | some m => decide (m < n)
  | none => x < 0

def bytesBefore : List UInt8 → List UInt8 → Bool
  | _, [] => false
  | [], _ :: _ => true
  | a :: as, b :: bs => decide (a.toNat < b.toNat) || (a == b && bytesBefore as bs)

/-- The order of values in sorted rows. -/
def before : Value → Value → Bool
  | integer m, integer n => decide (m < n)
  | real x, real y => x < y
  | integer n, real x => integerBelow n x
  | real x, integer n => realBelow x n
  | text s, text t => !decide (t ≤ s)
  | blob a, blob b => bytesBefore a b
  | v, w => decide (v.rank < w.rank)

/-- The row does not stand after the other one. -/
def rowUpTo : List Value → List Value → Bool
  | [], _ => true
  | _ :: _, [] => false
  | v :: vs, w :: ws => v.before w || (!w.before v && rowUpTo vs ws)

/-- The value as text; of a blob only its size is shown. -/
def shown : Value → Option String
  | null => none
  | integer n => some (toString n)
  | real x => some (Decimal.ofFloat x)
  | text s => some s
  | blob bytes => some ("<BLOB " ++ toString bytes.length ++ " bytes>")

/-- A whole number, which is real when it takes more than 64 bits. -/
def ofInt (n : Int) : Value :=
  if minInteger ≤ n ∧ n ≤ maxInteger then integer n
  else
    let x := Decimal.toFloat ⟨n.natAbs, 0⟩
    real (if n < 0 then -x else x)

/-- The value of a number with a sign before it. -/
def ofNumber? (negative : Bool) : Lexeme → Option Value
  | .integer n => some (ofInt (if negative then -n else n))
  | .real d => some (real (if negative then -d.toFloat else d.toFloat))
  | _ => none

/-- A blank that may stand around a number. -/
def isBlank (c : Char) : Bool := c == ' ' || ('\t' ≤ c && c ≤ '\r')

/-- The number that a text is, blanks around it aside. -/
def ofNumeral? (s : String) : Option Value :=
  let trimmed := ((s.toList.dropWhile isBlank).reverse.dropWhile isBlank).reverse
  let (negative, body) := match trimmed with
    | '-' :: cs => (true, cs)
    | '+' :: cs => (false, cs)
    | cs => (false, cs)
  let (lexeme, size) := Token.decimal body
  let digits := (body.takeWhile fun c => c.isDigit || c == '.').filter Char.isDigit
  if size = body.length ∧ digits ≠ [] ∧ Token.separator ∉ body then ofNumber? negative lexeme
  else none

end Value

/-- The kind of values that a column prefers. -/
inductive Affinity where
  | integer
  | text
  | real
  | numeric
  /-- Values are kept as they are. -/
  | any
  /-- There is no column behind the values. -/
  | unset
  deriving DecidableEq, Repr

namespace Affinity

/-- The affinity that the name of a type calls for. -/
def ofType (typeName : String) : Affinity :=
  let name := (typeName.map Char.toUpper).toList
  let has := fun (part : String) => Text.occursIn part.toList name
  if has "INT" then integer
  else if has "CHAR" || has "CLOB" || has "TEXT" then text
  else if has "BLOB" || name.isEmpty then any
  else if has "REAL" || has "FLOA" || has "DOUB" then real
  else numeric

/-- Numbers are preferred. -/
def isNumber : Affinity → Bool
  | integer | real | numeric => true
  | _ => false

/-- A text that is a number is kept as that number in a column of numbers. -/
def read (a : Affinity) (v : Value) : Value :=
  match v with
  | .text s => if a.isNumber then (Value.ofNumeral? s).getD v else v
  | _ => v

/-- The value as it is kept in a column. -/
def fit (a : Affinity) (v : Value) : Value :=
  match a, a.read v with
  | integer, .real x | numeric, .real x =>
    match Value.wholeOf? x with
    | some n => if Value.minInteger < n then .integer n else .real x
    | none => .real x
  | real, .integer n => .real (Float.ofInt n)
  | real, .real x => .real (if x == 0 then 0 else x)
  | text, .integer n => .text (toString n)
  | text, .real x => .text (Decimal.compactOfFloat x)
  | _, v => v

/-- The affinity under which the values of two columns are compared. -/
def ofComparison (a b : Affinity) : Affinity :=
  if a.isNumber || b.isNumber then numeric
  else if (a = text ∧ b = unset) ∨ (a = unset ∧ b = text) then text
  else any

/-- The affinity of a column of a compound of two relations. -/
def ofCompound (left right : Affinity) : Affinity :=
  let (a, other) := if left = unset then (right, left) else (left, right)
  if a = text ∧ other ≠ text then any
  else if a.isNumber && !other.isNumber then any
  else a

end Affinity

/-- A value with the affinity of its column. -/
structure Cell where
  affinity : Affinity
  value : Value

/-- Equal as a condition compares columns. -/
def Cell.equal (a b : Cell) : Sql.Truth :=
  match Affinity.ofComparison a.affinity b.affinity with
  | .text => (Affinity.text.fit a.value).equal (Affinity.text.fit b.value)
  | k => (k.read a.value).equal (k.read b.value)

end RelAlgebra.Store
