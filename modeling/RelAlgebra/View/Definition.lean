import RelAlgebra.Dialect
import RelAlgebra.Sql.Query
import RelAlgebra.View.Tree

/-!
The query that defines the view of a node, over the views of its operands.
-/

namespace RelAlgebra

/-- Names that differ in the case of ASCII letters only are the same column. -/
def sameColumn (a b : String) : Bool := a.toList.map Char.toLower == b.toList.map Char.toLower

/-- For each right column that has the name of a left one, the first such left column and the
right column, each in its own spelling. -/
def sharedColumns (left right : List String) : List (String × String) :=
  right.filterMap fun r => (left.find? (sameColumn · r)).map (·, r)

/-- The operator of a node, without its parameter. -/
inductive Operator where
  | table | select | project | join | cross | union | except | intersect | rename
  deriving DecidableEq, Repr

namespace Operator

/-- The name of the operator in messages. -/
def title : Operator → String
  | table => "Table"
  | select => "Select"
  | project => "Project"
  | join => "Join"
  | cross => "Cross"
  | union => "Union"
  | except => "Diff"
  | intersect => "Intersect"
  | rename => "Rename"

/-- The name of the generator that writes its queries. -/
def generator : Operator → String
  | table => "gen_table"
  | select => "gen_select"
  | project => "gen_project"
  | join => "gen_join"
  | cross => "gen_cross"
  | union => "gen_union"
  | except => "gen_except"
  | intersect => "gen_intersect"
  | rename => "gen_rename"

/-- The generator was called on a node of another operator. -/
def misused (o : Operator) : Error := .internal (.wrongOperator o.generator o.title)

end Operator

namespace ViewTree

open Sql

def operator : ViewTree → Operator
  | relation _ _ => .table
  | unary (.select _) _ _ => .select
  | unary (.project _) _ _ => .project
  | unary (.rename _) _ _ => .rename
  | binary (.join _) _ _ _ => .join
  | binary .cross _ _ _ => .cross
  | binary .union _ _ _ => .union
  | binary .diff _ _ _ => .except
  | binary .intersect _ _ _ => .intersect

/-- The view of the node cannot be made, for a reason. -/
def refuse (t : ViewTree) (reason : String) (source : Option DbError) : Error :=
  .validation t.view.name t.label reason source

/-- The columns of the view, which has to be there. -/
def knownSchema (t : ViewTree) : Except Error Schema :=
  match t.view.status, t.view.schema with
  | .correct, some schema => .ok schema
  | _, _ => .error (.internal (.schemaNotValidated t.view.name))

/-- The natural join of two relations with the given columns. Without a shared column it is the
product. -/
def naturalJoin (left right : String) (leftColumns rightColumns : List String) : Query :=
  let shared := sharedColumns leftColumns rightColumns
  if shared.isEmpty then .product left right
  else
    let rightOnly := rightColumns.filter fun r => !shared.any fun pair => pair.2 == r
    .naturalJoin left right leftColumns rightOnly shared

/-- A set operator applied to the operands `l` and `r` of the node `t`. -/
def setOperation (d : Dialect) (op : SetOp) (t l r : ViewTree) : Except Error Query :=
  if d.hasSetOperators then .ok (.setOp op l.view.name r.view.name)
  else do
    let left ← l.knownSchema
    let right ← r.knownSchema
    if left.arity = right.arity then
      .ok (.search op l.view.name r.view.name (left.columnNames.zip right.columnNames))
    else
      .error (t.refuse ("operands have different numbers of columns (" ++ toString left.arity ++
        " and " ++ toString right.arity ++ ")") none)

/-- New names for all columns of the operand `operand` of the node `t`. -/
def renamed (d : Dialect) (columns : String) (t operand : ViewTree) : Except Error Query :=
  if d.hasViewColumns then .ok (.all operand.view.name)
  else do
    let schema ← operand.knownSchema
    let names := splitColumns columns
    if schema.arity = names.length then
      .ok (.aliased operand.view.name (schema.columnNames.zip names))
    else .error (t.refuse "renaming an incorrect number of columns" none)

/-! ### Generators

Each writes the queries of the nodes of one operator. It looks at the node itself, and to call it
on a node of another operator is a fault of the program. -/

def tableQuery : ViewTree → Except Error Query
  | relation name _ => .ok (.distinct name)
  | _ => .error Operator.table.misused

def selectQuery : ViewTree → Except Error Query
  | unary (.select condition) o _ => .ok (.filter o.view.name condition)
  | _ => .error Operator.select.misused

def projectQuery : ViewTree → Except Error Query
  | unary (.project columns) o _ => .ok (.project o.view.name columns)
  | _ => .error Operator.project.misused

def joinQuery : ViewTree → Except Error Query
  | binary (.join (some condition)) l r _ => .ok (.thetaJoin l.view.name r.view.name condition)
  | binary (.join none) l r _ => do
    let left ← l.knownSchema
    let right ← r.knownSchema
    .ok (naturalJoin l.view.name r.view.name left.columnNames right.columnNames)
  | _ => .error Operator.join.misused

def crossQuery : ViewTree → Except Error Query
  | binary .cross l r _ => .ok (.product l.view.name r.view.name)
  | _ => .error Operator.cross.misused

def unionQuery : ViewTree → Except Error Query
  | binary .union l r _ => .ok (.union l.view.name r.view.name)
  | _ => .error Operator.union.misused

def exceptQuery (d : Dialect) (t : ViewTree) : Except Error Query :=
  match t with
  | binary .diff l r _ => setOperation d .except t l r
  | _ => .error Operator.except.misused

def intersectQuery (d : Dialect) (t : ViewTree) : Except Error Query :=
  match t with
  | binary .intersect l r _ => setOperation d .intersect t l r
  | _ => .error Operator.intersect.misused

def renameQuery (d : Dialect) (t : ViewTree) : Except Error Query :=
  match t with
  | unary (.rename columns) o _ => t.renamed d columns o
  | _ => .error Operator.rename.misused

/-- Calls the generator of an operator on a node. -/
def generate (o : Operator) (d : Dialect) (t : ViewTree) : Except Error Query :=
  match o with
  | .table => t.tableQuery
  | .select => t.selectQuery
  | .project => t.projectQuery
  | .join => t.joinQuery
  | .cross => t.crossQuery
  | .union => t.unionQuery
  | .except => t.exceptQuery d
  | .intersect => t.intersectQuery d
  | .rename => t.renameQuery d

/-- The statement for a node that is no renaming was asked for as that of a renaming. -/
def misusedRenaming : Error :=
  .internal (.wrongOperator "gen_rename_create" Operator.rename.title)

/-- The statement that creates the view of a renaming. It declares the columns of the view where the
dialect lets it. -/
def renameView (d : Dialect) (t : ViewTree) : Except Error CreateView :=
  match t with
  | unary (.rename columns) _ _ =>
    let declared := if d.hasViewColumns then some columns else none
    (t.renameQuery d).map fun query => ⟨t.view.name, declared, query⟩
  | _ => .error misusedRenaming

/-! ### Dispatch -/

/-- The query that yields the relation of the node. -/
def query (d : Dialect) (t : ViewTree) : Except Error Query := t.generate t.operator d

/-- The statement that creates the view of the node. -/
def createView (d : Dialect) (t : ViewTree) : Except Error CreateView :=
  match t.operator with
  | .rename => t.renameView d
  | _ => (t.query d).map fun query => { view := t.view.name, query }

/-- The SQL of the query that yields the relation of the node. -/
def definition (d : Dialect) (t : ViewTree) : Except Error String := (t.query d).map Query.text

/-- The SQL that creates the view of the node. -/
def createStatement (d : Dialect) (t : ViewTree) : Except Error String :=
  (t.createView d).map CreateView.text

/-- The SQL of the query, asked for as that of the operator `o`. -/
def definitionAs (o : Operator) (d : Dialect) (t : ViewTree) : Except Error String :=
  (t.generate o d).map Query.text

/-- The SQL that creates the view, asked for as that of a renaming. -/
def renameStatement (d : Dialect) (t : ViewTree) : Except Error String :=
  (t.renameView d).map CreateView.text

end ViewTree

end RelAlgebra
