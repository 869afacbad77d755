import RelAlgebra.Database
import RelAlgebra.Sql.Query
import RelAlgebra.Text.Search

/-!
A database that answers by rules. It keeps the views that are there and the SQL it was sent; what
a view holds, and which requests fail, is laid down beforehand.
-/

namespace RelAlgebra

/-- Rules by key; the first one whose key fits is used. -/
abbrev Rules (α : Type) := List (String × α)

def Rules.answer? {α : Type} (fits : String → Bool) (rules : Rules α) : Option α :=
  (rules.find? fun rule => fits rule.1).map Prod.snd

/-- The answers to give. Keys of `failDrop` and `failSchema` are names of views, the others are
parts of the SQL: of the statement that created the view, or of the SQL that was sent. -/
structure Script where
  dialect : Dialect := .postgresql
  tables : List String := []
  schemas : Rules (List Column) := []
  rows : Rules (List Row) := []
  failCreate : Rules DbError := []
  failDrop : Rules DbError := []
  failSchema : Rules DbError := []
  failQuery : Rules DbError := []
  listError : Option DbError := none
  exec : Rules (List (Except DbError CommandResult)) := []

structure Scripted where
  script : Script := {}
  /-- The views that are there, with the statement that created each. -/
  live : List (String × String) := []
  /-- The SQL received. -/
  sent : Array String := #[]

namespace Scripted

def send (db : Scripted) (sql : String) : Scripted := { db with sent := db.sent.push sql }

def statement? (db : Scripted) (name : String) : Option String :=
  (db.live.find? fun view => view.1 == name).map Prod.snd

def remove (db : Scripted) (name : String) : Scripted :=
  { db with live := db.live.filter fun view => view.1 != name }

def insert (db : Scripted) (name statement : String) : Scripted :=
  { db with live := (db.remove name).live ++ [(name, statement)] }

/-- Adds views that no statement created. -/
def addViews (db : Scripted) (names : List String) : Scripted :=
  names.foldl (fun db name => db.insert name "") db

/-- The names of the views that are there, in order. -/
def liveNames (db : Scripted) : List String := Text.sorted (db.live.map Prod.fst)

def contains (sql key : String) : Bool := Text.occursIn key.toList sql.toList

/-- The name of the view that a statement creates: what follows its first two words, up to a
parenthesis or a space. -/
def createdName (statement : String) : String :=
  let rest := statement.toList.drop "CREATE VIEW ".length
  String.ofList (rest.takeWhile fun c => c != '(' && c != ' ')

def createView (statement : String) (db : Scripted) : Except DbError Unit × Scripted :=
  let db := db.send statement
  match db.script.failCreate.answer? (contains statement) with
  | some e => (.error e, db)
  | none =>
    let name := createdName statement
    match db.statement? name with
    | some _ => (.error { message := "view " ++ name ++ " already exists" }, db)
    | none => (.ok (), db.insert name statement)

def dropView (name : String) (db : Scripted) : Except DbError Unit × Scripted :=
  let db := db.send (Sql.dropView name)
  match db.script.failDrop.answer? (· == name) with
  | some e => (.error e, db)
  | none =>
    match db.statement? name with
    | some _ => (.ok (), db.remove name)
    | none => (.error { message := "no such view: " ++ name }, db)

/-- The columns of a view without a rule. -/
def defaultColumns : List Column := [⟨"c", "INTEGER"⟩]

/-- The columns of a view. -/
def columns (db : Scripted) (name : String) : Except DbError (List Column) :=
  match db.script.failSchema.answer? (· == name) with
  | some e => .error e
  | none =>
    match db.statement? name with
    | some statement =>
      .ok ((db.script.schemas.answer? (contains statement)).getD defaultColumns)
    | none => .error { message := "no such table: " ++ name }

def tableSchema (name : String) (db : Scripted) : Except DbError Schema × Scripted :=
  ((db.columns name).map (⟨name, ·⟩), db)

/-- Answers a query for all rows of a view. -/
def query (sql : String) (db : Scripted) : Except DbError QueryResult × Scripted :=
  let db := db.send sql
  let name := String.ofList (sql.toList.drop "SELECT * FROM ".length)
  let statement := (db.statement? name).getD ""
  match db.script.failQuery.answer? (contains statement) with
  | some e => (.error e, db)
  | none =>
    let rows := (db.script.rows.answer? (contains statement)).getD []
    ((db.columns name).map (⟨·, rows⟩), db)

def listRelations (db : Scripted) : Except DbError (List String) × Scripted :=
  match db.script.listError with
  | some e => (.error e, db)
  | none => (.ok (db.script.tables ++ db.liveNames), db)

def execCommands (sql : String) (db : Scripted) :
    List (Except DbError CommandResult) × Scripted :=
  let db := db.send sql
  ((db.script.exec.answer? (contains sql)).getD [.ok (.count 0)], db)

instance : Database Scripted where
  dialect db := db.script.dialect
  createView := createView
  dropView := dropView
  tableSchema := tableSchema
  query := query
  listRelations := listRelations
  execCommands := execCommands

end Scripted

end RelAlgebra
