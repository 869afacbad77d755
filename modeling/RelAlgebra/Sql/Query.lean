import RelAlgebra.Sql.Ident

/-!
The queries that define views, and the statements that create them. `Query.text` and
`CreateView.text` give the SQL.
-/

namespace RelAlgebra.Sql

/-- The set operators that some dialects lack. -/
inductive SetOp where
  | except
  | intersect
  deriving DecidableEq, Repr

def SetOp.word : SetOp → String
  | except => "EXCEPT"
  | intersect => "INTERSECT"

/-- Relations and views are given by name; conditions and lists of columns that a user wrote are
kept as text. -/
inductive Query where
  /-- All rows of a relation. -/
  | all (source : String)
  /-- All rows of a relation, each once. -/
  | distinct (source : String)
  | filter (source condition : String)
  | project (source columns : String)
  | product (left right : String)
  | thetaJoin (left right condition : String)
  /-- The columns taken from the left and from the right, and the pairs of columns that agree. -/
  | naturalJoin (left right : String) (leftColumns rightColumns : List String)
    (shared : List (String × String))
  | union (left right : String)
  | setOp (op : SetOp) (left right : String)
  /-- The set operator by a search of the right relation for each row of the left one; each pair
  has to agree. -/
  | search (op : SetOp) (left right : String) (pairs : List (String × String))
  /-- Each column under a new name. -/
  | aliased (source : String) (columns : List (String × String))
  deriving DecidableEq, Repr

namespace Query

/-- The names of the two sides inside a natural join. -/
def leftAlias : String := "V1"

@[inherit_doc leftAlias]
def rightAlias : String := "V2"

/-- The columns of a natural join. -/
def joinColumns (leftColumns rightColumns : List String) : String :=
  qualifiedList leftAlias leftColumns ++
    if rightColumns.isEmpty then "" else ", " ++ qualifiedList rightAlias rightColumns

def aliasedColumn (column : String × String) : String := quote column.1 ++ " AS " ++ column.2

def text : Query → String
  | all source => "SELECT * FROM " ++ source
  | distinct source => "SELECT DISTINCT * FROM " ++ source
  | filter source condition => "SELECT * FROM " ++ source ++ " WHERE " ++ condition
  | project source columns => "SELECT DISTINCT " ++ columns ++ " FROM " ++ source
  | product left right => "SELECT * FROM " ++ left ++ ", " ++ right
  | thetaJoin left right condition =>
    "SELECT * FROM " ++ left ++ ", " ++ right ++ " WHERE " ++ condition
  | naturalJoin left right leftColumns rightColumns shared =>
    "SELECT " ++ joinColumns leftColumns rightColumns ++ " FROM " ++ left ++ " AS " ++ leftAlias ++
      ", " ++ right ++ " AS " ++ rightAlias ++ " WHERE " ++
      equalities leftAlias rightAlias shared
  | union left right => "SELECT * FROM " ++ left ++ " UNION SELECT * FROM " ++ right
  | setOp op left right =>
    "SELECT * FROM " ++ left ++ " " ++ op.word ++ " SELECT * FROM " ++ right
  | search .except left right pairs =>
    "SELECT * FROM " ++ left ++ " WHERE NOT EXISTS (SELECT * FROM " ++ right ++ " WHERE " ++
      equalities left right pairs ++ ")"
  | search .intersect left right pairs =>
    "SELECT DISTINCT * FROM " ++ left ++ " WHERE EXISTS (SELECT * FROM " ++ right ++ " WHERE " ++
      equalities left right pairs ++ ")"
  | aliased source columns =>
    "SELECT " ++ ", ".intercalate (columns.map aliasedColumn) ++ " FROM " ++ source

end Query

/-- A statement that creates a view; the list of its columns is text, if it declares one. -/
structure CreateView where
  view : String
  columns : Option String := none
  query : Query
  deriving DecidableEq, Repr

def CreateView.text (s : CreateView) : String :=
  let declared := match s.columns with
    | some columns => "(" ++ columns ++ ")"
    | none => ""
  "CREATE VIEW " ++ s.view ++ declared ++ " AS " ++ s.query.text

/-- The statement that drops a view. -/
def dropView (view : String) : String := "DROP VIEW " ++ view

end RelAlgebra.Sql
