import RelAlgebra.Dialect
import RelAlgebra.Schema

/-!
The interface to a database. Its state is a value of type `σ`, and each request gives an answer
and the state after it.
-/

namespace RelAlgebra

class Database (σ : Type) where
  dialect : σ → Dialect
  /-- Runs a complete `CREATE VIEW` statement. -/
  createView : String → σ → Except DbError Unit × σ
  /-- Drops the view of a name. -/
  dropView : String → σ → Except DbError Unit × σ
  /-- The columns of a table or view. -/
  tableSchema : String → σ → Except DbError Schema × σ
  query : String → σ → Except DbError QueryResult × σ
  /-- The names of the tables and views. -/
  listRelations : σ → Except DbError (List String) × σ
  /-- Runs a batch of SQL, which stops at the first statement that fails. -/
  execCommands : String → σ → List (Except DbError CommandResult) × σ

inductive LogLevel where
  | debug
  | info
  | warn
  deriving DecidableEq, Repr

structure LogRecord where
  level : LogLevel
  text : String
  deriving DecidableEq, Repr

/-- A database in use, with the records logged so far. -/
structure Connection (σ : Type) where
  db : σ
  log : Array LogRecord := #[]

namespace Connection

variable {σ : Type}

def record (c : Connection σ) (level : LogLevel) (text : String) : Connection σ :=
  { c with log := c.log.push ⟨level, text⟩ }

def debug (c : Connection σ) (text : String) : Connection σ := c.record .debug text

def info (c : Connection σ) (text : String) : Connection σ := c.record .info text

def warn (c : Connection σ) (text : String) : Connection σ := c.record .warn text

/-- Makes a request of the database. -/
def ask {α : Type} (c : Connection σ) (request : σ → α × σ) : α × Connection σ :=
  let (answer, db) := request c.db
  (answer, { c with db })

end Connection

end RelAlgebra
