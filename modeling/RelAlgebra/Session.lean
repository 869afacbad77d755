import RelAlgebra.View.Cycle

/-!
A session evaluates expressions one after the other over one database.
-/

namespace RelAlgebra

/-- All that is told about one evaluated expression. -/
structure Evaluation where
  parsedTree : String
  /-- The tree with the columns of its views, if all of them could be made. -/
  validatedTree : Option String
  /-- The part of the tree at which making the views failed. -/
  errorTree : Option String
  result : Except Error QueryResult
  /-- The views that could not be dropped. -/
  cleanupErrors : List Error

structure Session (σ : Type) where
  conn : Connection σ
  names : View.NameSupply := {}

namespace Session

variable {σ : Type} [Database σ]

/-- The part of a tree that an error is about. -/
def failing (t : ViewTree) : Error → ViewTree
  | .validation view _ _ _ => (t.find? view).getD t
  | _ => t

/-- The tree of an expression, for which no view has been made. -/
def tree (s : Session σ) (e : Expr) : ViewTree := (ViewTree.ofExpr e s.names.reset).1

/-- The connection when the views of an expression are about to be made. -/
def opened (s : Session σ) (e : Expr) : Connection σ :=
  s.conn.info ("evaluating expression with " ++
    toString (ViewTree.ofExpr e s.names.reset).2.issued ++ " node(s)")

/-- Makes the views of an expression. -/
def made (s : Session σ) (e : Expr) : ViewTree.Made σ := (s.tree e).validate (s.opened e)

/-- Makes the views of an expression, queries that of its root and drops them all. -/
def evaluate (s : Session σ) (e : Expr) : Evaluation × Session σ :=
  let made := s.made e
  let (validatedTree, errorTree, result, conn) :=
    match made.result with
    | .ok () =>
      let (result, conn) := made.tree.execute made.conn
      (some (made.tree.render true), none, result, conn)
    | .error e =>
      (none, some ((failing made.tree e).render true), .error e,
        made.conn.info ("validation failed: " ++ e.message))
  let cleaned := made.tree.clean conn
  let conn :=
    if cleaned.failures.isEmpty then
      cleaned.conn.info "evaluation finished, temporary views dropped"
    else cleaned.conn
  (⟨(s.tree e).render false, validatedTree, errorTree, result, cleaned.failures⟩,
    ⟨conn, (ViewTree.ofExpr e s.names.reset).2⟩)

/-- The names of the relations in the database. -/
def listRelations (s : Session σ) : Except DbError (List String) × Session σ :=
  let (answer, conn) := s.conn.ask Database.listRelations
  (answer, { s with conn })

/-- Hands SQL to the database. -/
def execCommands (s : Session σ) (sql : String) :
    List (Except DbError CommandResult) × Session σ :=
  let (answer, conn) := (s.conn.debug sql).ask (Database.execCommands sql)
  (answer, { s with conn })

end Session

end RelAlgebra
