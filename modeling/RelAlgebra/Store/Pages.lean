/-!
The pages of a database. A page that is given back is used again before the database grows.
-/

namespace RelAlgebra.Store

structure Pages where
  /-- The number of pages, of which the first one holds the catalogue. -/
  count : Nat := 1
  /-- The pages not in use. The first of them keeps track of the others. -/
  free : List Nat := []
  deriving DecidableEq, Repr

namespace Pages

def least : Nat → List Nat → Nat
  | n, [] => n
  | n, m :: ms => least (if m < n then m else n) ms

/-- A page for a new table: the least one that is not in use, but the one that keeps track of the
others comes last. -/
def take (p : Pages) : Nat × Pages :=
  match p.free with
  | [] => (p.count + 1, { p with count := p.count + 1 })
  | [page] => (page, { p with free := [] })
  | first :: page :: rest =>
    let page' := least page rest
    (page', { p with free := first :: (page :: rest).erase page' })

def give (p : Pages) (page : Nat) : Pages := { p with free := p.free ++ [page] }

end Pages

end RelAlgebra.Store
