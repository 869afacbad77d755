/-!
Braces and quotes in a text read from the left. A quote counts only inside braces, and inside a
quoted stretch nothing counts but the quote that ends it.
-/

namespace RelAlgebra

/-- How many braces are open and, inside a quoted stretch, its quote. -/
structure Nesting where
  depth : Nat
  quote : Option Char
  deriving DecidableEq, Repr

namespace Nesting

/-- Outside all braces. -/
def outside : Nesting := ⟨0, none⟩

/-- Just after the brace that opens a parameter. -/
def opened : Nesting := ⟨1, none⟩

def step (n : Nesting) (c : Char) : Nesting :=
  match n.quote with
  | some q => if c = q then { n with quote := none } else n
  | none =>
    if c = '{' then { n with depth := n.depth + 1 }
    else if c = '}' then { n with depth := n.depth - 1 }
    else if (c = '\'' ∨ c = '"') ∧ 0 < n.depth then { n with quote := some c }
    else n

def run (n : Nesting) (cs : List Char) : Nesting := cs.foldl step n

@[simp] theorem run_nil (n : Nesting) : n.run [] = n := rfl

@[simp] theorem run_cons (n : Nesting) (c : Char) (cs : List Char) :
    n.run (c :: cs) = (n.step c).run cs := rfl

theorem run_append (n : Nesting) (as bs : List Char) : n.run (as ++ bs) = (n.run as).run bs := by
  simp [run, List.foldl_append]

end Nesting

end RelAlgebra
