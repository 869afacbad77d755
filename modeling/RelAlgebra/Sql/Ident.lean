import RelAlgebra.Text.Blank

/-!
Column names in SQL text. A name between double quotes may hold any character; a double quote
inside it is written twice.
-/

namespace RelAlgebra.Sql

/-- A character of a quoted name. -/
def quoteChar (c : Char) : List Char := if c = '"' then ['"', '"'] else [c]

/-- The name between double quotes. -/
def quote (name : String) : String :=
  String.ofList ('"' :: name.toList.flatMap quoteChar ++ ['"'])

/-- The name before the first quote that is not written twice, and what follows that quote. -/
def readName : List Char → Option (List Char × List Char)
  | '"' :: '"' :: cs => (readName cs).map fun (name, rest) => ('"' :: name, rest)
  | '"' :: cs => some ([], cs)
  | c :: cs => (readName cs).map fun (name, rest) => (c :: name, rest)
  | [] => none

/-- The quoted name at the start of a text, and what follows it. -/
def readQuoted : List Char → Option (String × List Char)
  | '"' :: cs => (readName cs).map fun (name, rest) => (String.ofList name, rest)
  | _ => none

/-- A column of the relation that `relation` stands for. -/
def qualified (relation column : String) : String := relation ++ "." ++ quote column

/-- The columns of a relation, separated by commas. -/
def qualifiedList (relation : String) (columns : List String) : String :=
  ", ".intercalate (columns.map (qualified relation))

def equality (left right : String) (pair : String × String) : String :=
  qualified left pair.1 ++ " = " ++ qualified right pair.2

/-- The condition that the columns of each pair agree. -/
def equalities (left right : String) (pairs : List (String × String)) : String :=
  " AND ".intercalate (pairs.map (equality left right))

/-- The entries of a list separated by commas, without the blanks around them. -/
def splitColumns (columns : String) : List String :=
  (columns.toList.splitOn ',').map fun entry => String.ofList (Text.trim entry)

end RelAlgebra.Sql
