import RelAlgebra.Schema

/-!
The names of relations and columns: when two are the same, which fit a pattern, which ones a store
keeps for itself, and how the columns of a view are told apart.
-/

namespace RelAlgebra.Store

/-- Names are the same if they differ in the case of their letters only. -/
def sameName (a b : String) : Bool := a.toList.map Char.toLower == b.toList.map Char.toLower

def suffixes : List Char → List (List Char)
  | [] => [[]]
  | c :: cs => (c :: cs) :: suffixes cs

/-- The text fits a pattern, in which `_` stands for any character and `%` for any text. The case
of letters does not matter. -/
def like : List Char → List Char → Bool
  | [], cs => cs.isEmpty
  | p :: ps, cs =>
    if p = '%' then (suffixes cs).any (like ps)
    else
      match cs with
      | [] => false
      | c :: cs => (p == '_' || p.toLower == c.toLower) && like ps cs

/-- Names that start so are kept for the store itself. -/
def isReservedName (name : String) : Bool :=
  "sqlite_".toList.isPrefixOf (name.toList.map Char.toLower)

/-- The name of a relation, with the database it is said to be in. -/
structure RelationName where
  database : Option String := none
  name : String
  deriving DecidableEq, Repr

namespace RelationName

def text (r : RelationName) : String :=
  match r.database with
  | some database => database ++ "." ++ r.name
  | none => r.name

/-- The database that all relations are in. -/
def mainDatabase : String := "main"

/-- The database that nothing is ever put into. -/
def emptyDatabase : String := "temp"

def isMain (r : RelationName) : Bool := r.database.all (sameName mainDatabase)

/-- The name that a relation has inside a view. -/
def inView (r : RelationName) : RelationName :=
  { r with database := some (r.database.getD mainDatabase) }

end RelationName

/-- The tables that describe the relations of a database. -/
inductive Catalogue where
  | main
  | empty
  deriving DecidableEq, Repr

namespace Catalogue

def name : Catalogue → String
  | main => "sqlite_master"
  | empty => "sqlite_temp_master"

/-- The catalogue that a name stands for, if it stands for one. -/
def of? (r : RelationName) : Option Catalogue :=
  let isOne := fun (names : List String) => names.any (sameName r.name)
  let isIn := fun database => r.database.all (sameName database)
  if isOne ["sqlite_master", "sqlite_schema"] then
    if isIn RelationName.mainDatabase then some main
    else if isIn RelationName.emptyDatabase then some empty
    else none
  else if isOne ["sqlite_temp_master", "sqlite_temp_schema"] then
    if isIn RelationName.emptyDatabase then some empty else none
  else none

def columns : List Column :=
  [⟨"type", "TEXT"⟩, ⟨"name", "TEXT"⟩, ⟨"tbl_name", "TEXT"⟩, ⟨"rootpage", "INT"⟩, ⟨"sql", "TEXT"⟩]

end Catalogue

/-- The name without a number that stands after a colon at its end. -/
def unnumbered (name : String) : String :=
  match name.toList.reverse.dropWhile Char.isDigit with
  | ':' :: cs => String.ofList cs.reverse
  | _ => name

/-- The name, or the name with the least number that makes it differ from those taken. -/
def distinctName (taken : List String) (name : String) : String :=
  let numbered := (List.range (taken.length + 1)).map fun n =>
    unnumbered name ++ ":" ++ toString (n + 1)
  ((name :: numbered).find? fun s => !taken.any (sameName s)).getD name

/-- The columns of a view after those whose names are taken. No two have the same name, and a truth
value is no name. -/
def viewColumns (taken : List String) : List Column → List Column
  | [] => []
  | c :: cs =>
    let base :=
      if sameName c.name "true" || sameName c.name "false" then
        "column" ++ toString (taken.length + 1)
      else c.name
    let name := distinctName taken base
    { c with name } :: viewColumns (taken ++ [name]) cs

/-- A column that an earlier one has the name of. -/
def repeated? : List Column → Option Column
  | [] => none
  | c :: cs => (cs.find? fun d => sameName c.name d.name) <|> repeated? cs

end RelAlgebra.Store
