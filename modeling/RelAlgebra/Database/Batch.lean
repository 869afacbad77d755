import RelAlgebra.Database

/-!
Batches of SQL. An engine makes one statement after the other ready and runs it, for its rows if it
has columns and otherwise for the number of rows it changes. A batch ends at the first statement
that cannot be made ready or fails.
-/

namespace RelAlgebra

/-- An SQL engine whose state is a value of type `σ`. -/
class Engine (σ : Type) where
  /-- A statement of a text. -/
  Source : Type
  /-- A statement that is ready to run. -/
  Prepared : Type
  /-- Makes a statement ready to run on a state. -/
  prepare : Source → σ → Except DbError Prepared
  /-- The columns of the rows that a statement gives. -/
  columns : Prepared → List Column
  /-- Runs a statement and gives its rows. -/
  rows : Prepared → σ → Except DbError (List Row) × σ
  /-- Runs a statement and tells how many rows it changed. -/
  changes : Prepared → σ → Except DbError Nat × σ

namespace Engine

variable {σ : Type} [Engine σ]

/-- Runs a statement and collects its rows. -/
def collect (p : Prepared σ) (db : σ) : Except DbError QueryResult × σ :=
  match rows p db with
  | (.ok rows, db) => (.ok ⟨columns p, rows⟩, db)
  | (.error e, db) => (.error e, db)

/-- Runs a statement that is ready. -/
def run (p : Prepared σ) (db : σ) : Except DbError CommandResult × σ :=
  if 0 < (columns p).length then
    match collect p db with
    | (.ok result, db) => (.ok (.rows result), db)
    | (.error e, db) => (.error e, db)
  else
    match changes p db with
    | (.ok n, db) => (.ok (.count n), db)
    | (.error e, db) => (.error e, db)

/-- Makes a statement ready and runs it. -/
def execute (s : Source σ) (db : σ) : Except DbError CommandResult × σ :=
  match prepare s db with
  | .ok p => run p db
  | .error e => (.error e, db)

/-- Runs statements until one of them fails. -/
def executeAll : List (Source σ) → σ → List (Except DbError CommandResult) × σ
  | [], db => ([], db)
  | s :: rest, db =>
    match execute s db with
    | (.ok result, db) =>
      let (results, db) := executeAll rest db
      (.ok result :: results, db)
    | (.error e, db) => ([.error e], db)

end Engine

end RelAlgebra
