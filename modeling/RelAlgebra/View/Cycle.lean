import RelAlgebra.Database
import RelAlgebra.View.Definition

/-!
The life of the views of a tree: they are made from the operands to the operators, the view of
the root is queried, and all of them are dropped again.
-/

namespace RelAlgebra

variable {σ : Type} [Database σ]

namespace Connection

/-- Drops a view that an earlier evaluation may have left under a name. -/
def dropStale (c : Connection σ) (name : String) : Connection σ :=
  match c.ask (Database.dropView name) with
  | (.ok (), c) => c
  | (.error e, c) => c.debug ("no stale view " ++ name ++ " to drop: " ++ e.message)

/-- Drops a view whose columns could not be read. -/
def dropBroken (c : Connection σ) (name : String) : Connection σ :=
  match c.ask (Database.dropView name) with
  | (.ok (), c) => c
  | (.error e, c) => c.warn (Error.cleanup name e).message

/-- Drops the view if it is there. -/
def release (c : Connection σ) (v : View) : Option Error × Connection σ :=
  if v.status = .correct then
    match (c.debug (Sql.dropView v.name)).ask (Database.dropView v.name) with
    | (.ok (), c) => (none, c)
    | (.error e, c) => (some (.cleanup v.name e), c.warn (Error.cleanup v.name e).message)
  else (none, c)

/-- Drops the views that are there, in order. A failure is kept and the rest are dropped too. -/
def releaseAll (c : Connection σ) : List View → List Error × Connection σ
  | [] => ([], c)
  | v :: vs =>
    let (failure, c) := c.release v
    let (failures, c) := c.releaseAll vs
    (failure.toList ++ failures, c)

end Connection

namespace ViewTree

/-- The tree after its views were made, or after the first of them that could not be. -/
structure Made (σ : Type) where
  tree : ViewTree
  result : Except Error Unit
  conn : Connection σ

def withStatus (t : ViewTree) (status : Status) : ViewTree :=
  t.withView { t.view with status }

/-- Makes the view of the root, over the views of its operands. -/
def makeRoot (t : ViewTree) (c : Connection σ) : Made σ :=
  let c := c.dropStale t.view.name
  match t.createStatement (Database.dialect c.db) with
  | .error e => ⟨t.withStatus .error, .error e, c⟩
  | .ok statement =>
    match (c.debug statement).ask (Database.createView statement) with
    | (.error e, c) => ⟨t.withStatus .error, .error (t.refuse e.message (some e)), c⟩
    | (.ok (), c) =>
      match c.ask (Database.tableSchema t.view.name) with
      | (.ok schema, c) =>
        ⟨t.withView { t.view with status := .correct, schema := some schema }, .ok (), c⟩
      | (.error e, c) =>
        let reason := "cannot read schema of created view: " ++ e.message
        ⟨t.withStatus .error, .error (t.refuse reason (some e)), c.dropBroken t.view.name⟩

/-- Makes all views, from the operands to the operators. The first failure ends it. -/
def validate : ViewTree → Connection σ → Made σ
  | relation name v, c => (relation name v).makeRoot c
  | unary op t v, c =>
    match t.validate c with
    | ⟨t, .ok (), c⟩ => (unary op t v).makeRoot c
    | ⟨t, .error e, c⟩ => ⟨unary op t v, .error e, c⟩
  | binary op l r v, c =>
    match l.validate c with
    | ⟨l, .ok (), c⟩ =>
      match r.validate c with
      | ⟨r, .ok (), c⟩ => (binary op l r v).makeRoot c
      | ⟨r, .error e, c⟩ => ⟨binary op l r v, .error e, c⟩
    | ⟨l, .error e, c⟩ => ⟨binary op l r v, .error e, c⟩

/-- Queries the view of the root. -/
def execute (t : ViewTree) (c : Connection σ) : Except Error QueryResult × Connection σ :=
  if t.view.status = .correct then
    let sql := (Sql.Query.all t.view.name).text
    match (c.debug sql).ask (Database.query sql) with
    | (.ok table, c) => (.ok table, c)
    | (.error e, c) => (.error (.execution e), c)
  else (.error (.internal (.executedWhile t.view.name t.view.status.title)), c)

/-- The tree after its views were dropped, with the failures. -/
structure Cleaned (σ : Type) where
  tree : ViewTree
  failures : List Error
  conn : Connection σ

/-- Drops all views, from the operators to the operands. -/
def clean (t : ViewTree) (c : Connection σ) : Cleaned σ :=
  let (failures, c) := c.releaseAll t.views
  ⟨t.reset, failures, c⟩

end ViewTree

end RelAlgebra
