/-!
Names for temporary views, numbered from one.
-/

namespace RelAlgebra.View

def nameOf (n : Nat) : String := "RA_TMP_VIEW_" ++ toString n

/-- The number of names given out. -/
structure NameSupply where
  issued : Nat := 0
  deriving DecidableEq, Repr

namespace NameSupply

def next (s : NameSupply) : String × NameSupply := (nameOf (s.issued + 1), ⟨s.issued + 1⟩)

/-- Starts again from the first name. -/
def reset (_ : NameSupply) : NameSupply := ⟨0⟩

/-- Passes over a number of names. -/
def skip (s : NameSupply) (n : Nat) : NameSupply := ⟨s.issued + n⟩

end NameSupply

end RelAlgebra.View
