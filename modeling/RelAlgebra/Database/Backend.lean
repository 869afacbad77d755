import RelAlgebra.Database.Batch

/-!
A database on top of an SQL engine. Its requests are texts, which the engine splits into statements
and runs, and the names of its relations are selected from the catalogue of the engine.
-/

namespace RelAlgebra

/-- An object of a database, as a catalogue describes it. -/
structure CatalogueObject where
  kind : String
  name : String
  deriving DecidableEq, Repr

/-- An engine that reads SQL and describes its objects in a catalogue. -/
class SqlEngine (σ : Type) extends Engine σ where
  /-- The dialect in which it is addressed. -/
  dialect : σ → Dialect
  /-- The statements of a text, in order. -/
  statements : String → List Source
  /-- The objects that the catalogue describes, unless it cannot be read. -/
  catalogue : σ → Except DbError (List CatalogueObject)
  /-- Whether a text fits a pattern, which comes first. -/
  like : String → String → Bool
  /-- Puts texts in order. -/
  ordered : List String → List String

namespace SqlEngine

variable {σ : Type} [SqlEngine σ]

/-- Runs a text. -/
def executeBatch (sql : String) (db : σ) : List (Except DbError CommandResult) × σ :=
  Engine.executeAll (statements sql) db

/-- Runs a text of which only the failure is of interest. -/
def executeText (sql : String) (db : σ) : Except DbError Unit × σ :=
  let (results, db) := executeBatch sql db
  match results.getLast? with
  | some (.error e) => (.error e, db)
  | _ => (.ok (), db)

/-- Makes the first statement of a text ready. -/
def prepareFirst (sql : String) (db : σ) : Except DbError (Engine.Prepared σ) :=
  match statements (σ := σ) sql with
  | s :: _ => Engine.prepare s db
  | [] => .error { message := "not an error", code := some 21 }

/-- Runs the first statement of a text for its rows. -/
def query (sql : String) (db : σ) : Except DbError QueryResult × σ :=
  match prepareFirst sql db with
  | .ok p => Engine.collect p db
  | .error e => (.error e, db)

def tableSchema (name : String) (db : σ) : Except DbError Schema × σ :=
  ((prepareFirst ("SELECT * FROM " ++ name) db).map fun p => ⟨name, Engine.columns p⟩, db)

/-- The kinds of objects that are relations. -/
def relationKinds : List String := ["table", "view"]

/-- The pattern of the names that are not listed. -/
def hiddenNames : String := "sqlite_%"

/-- The names of the relations, in order. -/
def listRelations (db : σ) : Except DbError (List String) :=
  (catalogue db).map fun objects =>
    let listed := objects.filter fun o =>
      relationKinds.contains o.kind && !like σ hiddenNames o.name
    ordered σ (listed.map CatalogueObject.name)

instance : Database σ where
  dialect := dialect
  createView := executeText
  dropView name := executeText ("DROP VIEW " ++ name)
  tableSchema := tableSchema
  query := query
  listRelations db := (listRelations db, db)
  execCommands := executeBatch

end SqlEngine

end RelAlgebra
