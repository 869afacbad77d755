import RelAlgebra.Database.Backend
import RelAlgebra.Store.Pages
import RelAlgebra.Store.Statement

/-!
A small SQL database in memory. It has tables and views, which are read by name, and runs the
statements of a text one after the other until one of them fails.
-/

namespace RelAlgebra

namespace Store

structure Table where
  columns : List Column
  /-- The affinity of each column. -/
  affinities : List Affinity
  rows : List (List Value) := []

namespace Table

/-- A table whose columns have the affinities of their types. -/
def ofColumns (columns : List Column) : Table :=
  { columns, affinities := columns.map fun c => Affinity.ofType c.typeName }

/-- The table with each row once, where it stands first. -/
def distinct (t : Table) : Table :=
  { t with rows := t.rows.eraseDups }

def cells (t : Table) : List (List Cell) :=
  t.rows.map fun row => (t.affinities.zip row).map fun (affinity, value) => ⟨affinity, value⟩

def heading (t : Table) (name : String) : Sql.Heading := ⟨name, t.columns.map Column.name⟩

/-- The rows for which a search of the other table succeeds. -/
def searched (t other : Table) (absent : Bool) (pairs : List (Sql.Position × Sql.Position)) :
    Table :=
  let kept := Sql.searched Cell.equal pairs absent t.cells other.cells
  { t with rows := kept.map fun row => row.map Cell.value }

/-- The rows of a set operator, in order. Of rows that are the same the last one is taken. -/
def compound (op : Sql.SetOp) (left right : Table) : Table where
  columns := left.columns
  affinities := List.zipWith Affinity.ofCompound left.affinities right.affinities
  rows := (op.rows left.rows.reverse right.rows).mergeSort Value.rowUpTo

/-- The table with the types of another one. -/
def withTypes (t other : Table) : Table :=
  let typed := fun (c d : Column) => { c with typeName := d.typeName }
  { t with columns := List.zipWith typed t.columns other.columns }

def result (t : Table) : QueryResult :=
  ⟨t.columns, t.rows.map fun row => row.map Value.shown⟩

end Table

/-- The rows of the scan of a table. -/
def Scan.once (s : Scan) (t : Table) : Table := if s.distinct then t.distinct else t

inductive Relation where
  | table (t : Table)
  | view (query : Query)

def Relation.kind : Relation → String
  | table _ => "table"
  | view _ => "view"

/-- A relation of a store with its name. -/
structure Entry where
  name : String
  relation : Relation
  /-- The statement that made it. -/
  sql : String
  /-- The page at which its rows start; a view has none. -/
  page : Nat := 0

def Entry.row (e : Entry) : List Value :=
  [.text e.relation.kind, .text e.name, .text e.name, .integer e.page, .text e.sql]

def Entry.described (e : Entry) : CatalogueObject := ⟨e.relation.kind, e.name⟩

end Store

open Store

structure Store where
  dialect : Dialect := .sqlite
  /-- The relations in the order they were created. -/
  entries : List Entry := []
  pages : Pages := {}
  /-- The number of rows that the last insertion or deletion was about. -/
  changes : Nat := 0
  /-- The store's file holds something else, so no relation can be looked up. -/
  isForeign : Bool := false

namespace Store

def find? (db : Store) (name : String) : Option Entry :=
  db.entries.find? fun e => sameName e.name name

/-- The store without the relation of a name. -/
def remove (db : Store) (name : String) : Store :=
  let (gone, kept) := db.entries.partition fun e => sameName e.name name
  { db with
    entries := kept
    pages := gone.foldl (fun p e => if e.page = 0 then p else p.give e.page) db.pages }

/-- The store with one more table. -/
def addTable (db : Store) (target : NewName) (columns : List Column) : Store :=
  let (page, pages) := db.pages.take
  let sql := "CREATE TABLE " ++ target.definition
  let table := Table.ofColumns columns
  { db with entries := db.entries ++ [⟨target.name, .table table, sql, page⟩], pages }

/-- The store with one more view. -/
def addView (db : Store) (target : NewName) (query : Query) : Store :=
  let sql := "CREATE VIEW " ++ target.definition
  { db with entries := db.entries ++ [⟨target.name, .view query, sql, 0⟩] }

/-- Puts other rows into a table. -/
def setRows (db : Store) (name : String) (rows : List (List Value)) : Store :=
  { db with
    entries := db.entries.map fun e =>
      match e.relation with
      | .table t =>
        if sameName e.name name then { e with relation := .table { t with rows } } else e
      | .view _ => e }

/-- The table that describes the relations. -/
def catalogue (db : Store) : Catalogue → Table
  | .main => { Table.ofColumns Catalogue.columns with rows := db.entries.map Entry.row }
  | .empty => Table.ofColumns Catalogue.columns

/-- What a name stands for. -/
def lookup? (db : Store) (name : RelationName) : Option (Catalogue ⊕ Entry) :=
  (Catalogue.of? name).map .inl <|>
    if name.isMain then (db.find? name.name).map .inr else none

/-- Where a column of a condition is found. -/
def PlacedColumn.locate (isInView : Bool) (outer inner : Sql.Heading) (c : PlacedColumn) :
    Except DbError Sql.Position :=
  let message := "no such column: " ++ c.name.relation ++ "." ++ c.name.column
  match Sql.locate? sameName outer inner c.name with
  | some p => .ok p
  | none => .error (if isInView then failure message else c.place.error message)

/-- The answer to a query over the relations that are read by the given function. -/
def Query.answer (isInView : Bool) (relation : RelationName → Except DbError Table) :
    Query → Except DbError Table
  | .values columns =>
    .ok ⟨columns.map fun c => ⟨c.1, ""⟩, columns.map fun _ => .unset, [columns.map Prod.snd]⟩
  | .rows scan => (relation scan.source).map scan.once
  | .filtered scan condition => do
    let outer ← relation scan.source
    let inner ← relation condition.scan.source
    let locate := PlacedColumn.locate isInView (outer.heading scan.source.name)
      (inner.heading condition.scan.source.name)
    let pairs ← condition.pairs.mapM fun (a, b) => return (← locate a, ← locate b)
    return scan.once (outer.searched inner condition.absent pairs)
  | .compound op left right => do
    let second ← relation right
    let first ← relation left
    if first.columns.length ≠ second.columns.length then
      .error (failure ("SELECTs to the left and right of " ++ op.word ++
        " do not have the same number of result columns"))
    else
      let t := Table.compound op first second
      return if isInView then t.withTypes second else t

/-- Reads a query, inside views of the given names; at most `depth` more of them are read. -/
def readWithin (db : Store) (depth : Nat) (views : List String) (query : Query) :
    Except DbError Table :=
  query.answer (!views.isEmpty) fun source =>
    let source := if views.isEmpty then source else source.inView
    match db.lookup? source with
    | none => .error (failure ("no such table: " ++ source.text))
    | some (.inl c) => .ok (db.catalogue c)
    | some (.inr e) =>
      match e.relation, depth with
      | .table t, _ => .ok t
      | .view query, depth + 1 =>
        if views.any (sameName e.name) then
          .error (failure ("view " ++ e.name ++ " is circularly defined"))
        else
          (readWithin db depth (e.name :: views) query).map fun t =>
            { t with columns := viewColumns [] t.columns }
      | .view _, 0 => .error (failure ("view " ++ e.name ++ " is circularly defined"))

/-- Views are read inside each other only as often as there are relations. -/
def read (db : Store) (query : Query) : Except DbError Table :=
  db.readWithin (db.entries.length + 1) [] query

/-- Fails if the database of a new relation is not there. -/
def checkDatabase (target : NewName) : Except DbError Unit :=
  match target.database with
  | some d =>
    if sameName d.name RelationName.mainDatabase then .ok ()
    else .error (d.error "unknown database " "")
  | none => .ok ()

/-- Whether a relation of the name is to be created. Fails if it cannot be. -/
def isWanted (db : Store) (target : NewName) : Except DbError Bool := do
  checkDatabase target
  if isReservedName target.name then
    .error (failure ("object name reserved for internal use: " ++ target.name))
  else
    match db.find? target.name with
    | none => return true
    | some e =>
      if target.unlessPresent then return false
      else .error (target.relation.error (e.relation.kind ++ " ") " already exists")

/-- The table of a name, to change its rows. Of a view the columns are read before it is refused. -/
def table (db : Store) (name : RelationName) : Except DbError Table :=
  match db.lookup? name with
  | some (.inl c) => .error (failure ("table " ++ c.name ++ " may not be modified"))
  | none => .error (failure ("no such table: " ++ name.text))
  | some (.inr e) =>
    match e.relation with
    | .table t => .ok t
    | .view _ => do
      let _ ← db.read (.rows { source := name })
      .error (failure ("cannot modify " ++ e.name ++ " because it is a view"))

/-- The columns that are read before a fault of the statement may be in its way. -/
def createTable (db : Store) (target : NewName) (columns : List Column) (fault : Option DbError) :
    Except DbError Store := do
  let wanted ← db.isWanted target
  match (if wanted then repeated? columns else none), fault with
  | some c, _ => .error (failure ("duplicate column name: " ++ c.name))
  | none, some e => .error e
  | none, none => return if wanted then db.addTable target columns else db

/-- A view may be created over relations that are not there. -/
def createView (db : Store) (target : NewName) (query : Query) : Except DbError Store := do
  if ← db.isWanted target then
    match query.sources.find? fun source => !source.isMain with
    | some { database := some other, .. } =>
      .error (target.relation.error "view " (" cannot reference objects in database " ++ other))
    | _ => return db.addView target query
  else return db

/-- Rows are of one length before the table is looked up. -/
def insert (db : Store) (name : RelationName) (rows : List (List Value)) :
    Except DbError Store := do
  let length := (rows.head?.map List.length).getD 0
  if rows.any fun row => row.length != length then
    .error (failure "all VALUES must have the same number of terms")
  else
    let t ← db.table name
    let width := t.columns.length
    if length ≠ width then
      .error (failure ("table " ++ name.text ++ " has " ++ toString width ++ " columns but " ++
        toString length ++ " values were supplied"))
    else
      let kept := fun row => (t.affinities.zip row).map fun (a, v) => a.fit v
      return { db.setRows name.name (t.rows ++ rows.map kept) with changes := rows.length }

def delete (db : Store) (name : RelationName) : Except DbError Store := do
  let t ← db.table name
  return { db.setRows name.name [] with changes := t.rows.length }

/-- The relation that is to go. There is none if that does not matter. -/
def dropped? (db : Store) (target : OldName) (kind : String) : Except DbError (Option Entry) :=
  match db.lookup? target.name with
  | some (.inl c) => .error (failure ("table " ++ c.name ++ " may not be dropped"))
  | some (.inr e) => .ok (some e)
  | none =>
    if target.ifPresent then .ok none
    else .error (failure ("no such " ++ kind ++ ": " ++ target.name.text))

def dropTable (db : Store) (target : OldName) : Except DbError Store := do
  match ← db.dropped? target "table" with
  | none => return db
  | some e =>
    match e.relation with
    | .table _ => return db.remove e.name
    | .view _ => .error (failure ("use DROP VIEW to delete view " ++ e.name))

def dropView (db : Store) (target : OldName) : Except DbError Store := do
  match ← db.dropped? target "view" with
  | none => return db
  | some e =>
    match e.relation with
    | .view _ => return db.remove e.name
    | .table _ => .error (failure ("use DROP TABLE to delete table " ++ e.name))

/-- The store after a statement that is no query. -/
def change (db : Store) : Statement → Except DbError Store
  | .select _ => .ok db
  | .createTable target columns fault => db.createTable target columns fault
  | .createView target query => db.createView target query
  | .insert name rows => db.insert name rows
  | .delete name => db.delete name
  | .dropTable target => db.dropTable target
  | .dropView target => db.dropView target

/-- Fails if no relation can be looked up. -/
def checkFile (db : Store) : Except DbError Unit :=
  if db.isForeign then .error { message := "file is not a database", code := some 26 } else .ok ()

/-- Only a row of values is read without looking at the file. -/
def checkStatement (db : Store) : Statement → Except DbError Unit
  | .select (.values _) => .ok ()
  | _ => db.checkFile

/-- A statement that can be run, with the columns of its rows. -/
structure Prepared where
  statement : Statement
  columns : List Column

/-- Only a query has columns, which are read before it is run. -/
def ready (db : Store) (s : Statement) : Except DbError Prepared := do
  db.checkStatement s
  match s with
  | .select query => return ⟨s, (← db.read query).columns⟩
  | _ => return ⟨s, []⟩

/-- Makes a change, of which the answer tells something. One that fails changes nothing. -/
def changed {α : Type} (db : Store) (s : Statement) (answer : Store → α) :
    Except DbError α × Store :=
  match db.change s with
  | .ok db => (.ok (answer db), db)
  | .error e => (.error e, db)

/-- The rows of a statement. One that is no query has none. -/
def rowsOf (p : Prepared) (db : Store) : Except DbError (List Row) × Store :=
  match p.statement with
  | .select query => ((db.read query).map fun t => t.result.rows, db)
  | s => db.changed s fun _ => []

instance : Engine Store where
  Source := Except DbError Statement
  Prepared := Prepared
  prepare s db := s.bind db.ready
  columns := Prepared.columns
  rows := rowsOf
  changes p db := db.changed p.statement Store.changes

instance : SqlEngine Store where
  dialect := Store.dialect
  statements := statements
  catalogue db := db.checkFile.map fun () => db.entries.map Entry.described
  like pattern text := like pattern.toList text.toList
  ordered := Text.sorted

end Store

end RelAlgebra
