/-!
What a database tells about its relations: columns with their types, and rows of values as text.
-/

namespace RelAlgebra

/-- A column and its type, as the database names it. -/
structure Column where
  name : String
  typeName : String
  deriving DecidableEq, Repr

def Column.text (c : Column) : String := c.name ++ " " ++ c.typeName

/-- The columns and their types, separated by commas. -/
def columnsText (columns : List Column) : String := ", ".intercalate (columns.map Column.text)

/-- The columns of a relation or a view, in order. -/
structure Schema where
  name : String
  columns : List Column
  deriving DecidableEq, Repr

namespace Schema

def text (s : Schema) : String := s.name ++ "(" ++ columnsText s.columns ++ ")"

def columnNames (s : Schema) : List String := s.columns.map Column.name

def arity (s : Schema) : Nat := s.columns.length

end Schema

/-- The values of a row as text; `none` is NULL. -/
abbrev Row := List (Option String)

structure QueryResult where
  columns : List Column
  rows : List Row
  deriving DecidableEq, Repr

/-- What one statement of a batch of SQL gives. -/
inductive CommandResult where
  | rows (table : QueryResult)
  | count (n : Nat)
  deriving DecidableEq, Repr

end RelAlgebra
