import RelAlgebra.Sql.Query

/-!
The rows of a set operator, by the operator itself and by a search of the right relation for each
row of the left one.

A comparison may be neither true nor false, as one with NULL is. A search asks for a row that makes
its condition true.
-/

namespace RelAlgebra.Sql

variable {α : Type}

/-- What a condition comes to. -/
inductive Truth where
  | no
  | unknown
  | yes
  deriving DecidableEq, Repr

namespace Truth

def ofBool (b : Bool) : Truth := if b then yes else no

/-- Both conditions; one that is false decides. -/
def and : Truth → Truth → Truth
  | no, _ => no
  | _, no => no
  | yes, t => t
  | unknown, _ => unknown

/-- All conditions of a list. -/
def all (conditions : List Truth) : Truth := conditions.foldr and yes

end Truth

/-- A column as a condition names it. -/
structure ColumnName where
  relation : String
  column : String
  deriving DecidableEq, Repr

/-- A relation that a condition can speak of. -/
structure Heading where
  relation : String
  columns : List String
  deriving DecidableEq, Repr

/-- Where a condition finds a value: in the row of the outer or of the inner relation. -/
inductive Position where
  | outer (index : Nat)
  | inner (index : Nat)
  deriving DecidableEq, Repr

/-- The place of a column in a relation; `same` tells when two names are. -/
def Heading.index? (same : String → String → Bool) (h : Heading) (c : ColumnName) : Option Nat :=
  if same h.relation c.relation then h.columns.findIdx? (same · c.column) else none

/-- What a name stands for. The inner relation is looked at first. -/
def locate? (same : String → String → Bool) (outer inner : Heading) (c : ColumnName) :
    Option Position :=
  (inner.index? same c).map .inner <|> (outer.index? same c).map .outer

def Position.value? (outer inner : List α) : Position → Option α
  | .outer i => outer[i]?
  | .inner i => inner[i]?

/-- What the comparison of two values comes to in a pair of rows. -/
def comparison (equal : α → α → Truth) (outer inner : List α) (pair : Position × Position) :
    Truth :=
  match pair.1.value? outer inner, pair.2.value? outer inner with
  | some a, some b => equal a b
  | _, _ => .unknown

/-- The condition that the values of each pair are equal. -/
def agreement (equal : α → α → Truth) (pairs : List (Position × Position))
    (outer inner : List α) : Truth :=
  Truth.all (pairs.map (comparison equal outer inner))

/-- The outer rows for which there is an inner row that meets the condition, or those for which
there is none. -/
def searched (equal : α → α → Truth) (pairs : List (Position × Position)) (absent : Bool)
    (outer inner : List (List α)) : List (List α) :=
  outer.filter fun row =>
    (inner.any fun other => decide (agreement equal pairs row other = .yes)) != absent

/-- The rows of a set operator, each once. -/
def SetOp.rows [BEq α] (op : SetOp) (left right : List (List α)) : List (List α) :=
  (left.filter fun row => right.contains row == decide (op = .intersect)).eraseDups

end RelAlgebra.Sql
