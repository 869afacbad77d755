import RelAlgebra.Error
import RelAlgebra.Store.Naming
import RelAlgebra.Store.Token
import RelAlgebra.Store.Value

/-!
The SQL statements that a store understands, and reading them.
-/

namespace RelAlgebra.Store

/-- Where a name stands in a text. -/
structure Place where
  sql : String
  offset : Nat
  deriving DecidableEq, Repr

/-- A failure that is reported with the text it is found in. -/
def Place.error (p : Place) (message : String) : DbError :=
  { message := message ++ " in " ++ p.sql ++ " at offset " ++ toString p.offset }

/-- A name in a statement. -/
structure PlacedName where
  name : String
  /-- The name with its quotes. -/
  written : String
  place : Place
  deriving DecidableEq, Repr

/-- A failure about a name, which stands between the two parts of the message. -/
def PlacedName.error (n : PlacedName) (before after : String) : DbError :=
  n.place.error (before ++ n.written ++ after)

/-- A column that a condition names. -/
structure PlacedColumn where
  name : Sql.ColumnName
  place : Place
  deriving DecidableEq, Repr

/-- All rows of a relation, each once if `distinct` holds. -/
structure Scan where
  distinct : Bool := false
  source : RelationName
  deriving DecidableEq, Repr

/-- A condition on a row: there is a row in a relation, or there is none, for which the columns of
each pair are equal. -/
structure Search where
  absent : Bool
  scan : Scan
  pairs : List (PlacedColumn × PlacedColumn)
  deriving DecidableEq, Repr

inductive Query where
  /-- One row of values under given names. -/
  | values (columns : List (String × Value))
  | rows (scan : Scan)
  | filtered (scan : Scan) (condition : Search)
  /-- A set operator takes each row once anyway. -/
  | compound (op : Sql.SetOp) (left right : RelationName)

/-- The relations of a query, in the order in which they are looked up. -/
def Query.sources : Query → List RelationName
  | values _ => []
  | rows scan => [scan.source]
  | filtered scan condition => [scan.source, condition.scan.source]
  | compound _ left right => [right, left]

/-- The name that a relation is to get. -/
structure NewName where
  database : Option PlacedName
  relation : PlacedName
  /-- The statement from the name to its end. -/
  definition : String
  /-- Nothing is to be done if there is a relation of the name. -/
  unlessPresent : Bool
  deriving DecidableEq, Repr

def NewName.name (n : NewName) : String := n.relation.name

/-- The name of a relation that is to go. -/
structure OldName where
  name : RelationName
  /-- Nothing is to be done if there is no relation of the name. -/
  ifPresent : Bool
  deriving DecidableEq, Repr

inductive Statement where
  | select (query : Query)
  /-- The columns that could be read, and why no more could be. -/
  | createTable (target : NewName) (columns : List Column) (fault : Option DbError)
  | createView (target : NewName) (query : Query)
  | insert (name : RelationName) (rows : List (List Value))
  | delete (name : RelationName)
  | dropTable (target : OldName)
  | dropView (target : OldName)

/-- A failure with the general code. -/
def failure (message : String) : DbError := { message, code := some 1 }

/-- Reads from the front of a list of tokens; a failure tells the tokens it got to. -/
abbrev Reader := StateT (List Token) (Except (List Token))

namespace Reader

def fail {α : Type} : Reader α := fun tokens => .error tokens

/-- The words that are never names. -/
def reserved : List String :=
  ["ADD", "ALL", "ALTER", "AND", "AS", "AUTOINCREMENT", "BETWEEN", "CASE", "CHECK", "COLLATE",
    "COMMIT", "CONSTRAINT", "CREATE", "DEFAULT", "DEFERRABLE", "DELETE", "DISTINCT", "DROP",
    "ELSE", "ESCAPE", "EXCEPT", "EXISTS", "FOREIGN", "FROM", "GROUP", "HAVING", "IN", "INDEX",
    "INSERT", "INTERSECT", "INTO", "IS", "ISNULL", "JOIN", "LIMIT", "NOT", "NOTHING", "NOTNULL",
    "NULL", "ON", "OR", "ORDER", "PRIMARY", "REFERENCES", "RETURNING", "SELECT", "SET", "TABLE",
    "THEN", "TO", "TRANSACTION", "UNION", "UNIQUE", "UPDATE", "USING", "VALUES", "WHEN", "WHERE"]

def upper (s : String) : String := s.map Char.toUpper

/-- The name that a lexeme is. -/
def name? : Lexeme → Option String
  | .word w => if upper w ∈ reserved then none else some w
  | .quoted w => some w
  | .text w => some w
  | _ => none

/-- The next lexeme, if it fits. -/
def accept? {α : Type} (fits : Lexeme → Option α) : Reader (Option α) := fun tokens =>
  match tokens with
  | [] => .ok (none, [])
  | t :: rest =>
    match fits t.lexeme with
    | some a => .ok (some a, rest)
    | none => .ok (none, tokens)

def accept {α : Type} (fits : Lexeme → Option α) : Reader α := do
  match ← accept? fits with
  | some a => pure a
  | none => fail

/-- A keyword; the case of its letters does not matter. -/
def isKeyword (keyword : String) : Lexeme → Option Unit
  | .word w => if upper w = keyword then some () else none
  | _ => none

def isSymbol (c : Char) : Lexeme → Option Unit
  | .symbol d => if c = d then some () else none
  | _ => none

def keyword (w : String) : Reader Unit := accept (isKeyword w)

def symbol (c : Char) : Reader Unit := accept (isSymbol c)

def name : Reader String := accept name?

/-- A relation, maybe with its database. -/
def relation : Reader RelationName := do
  let first ← name
  match ← accept? (isSymbol '.') with
  | some () => return { database := some first, name := ← name }
  | none => return { name := first }

/-- A literal other than a number with a sign. -/
def plain? (l : Lexeme) : Option Value :=
  match l with
  | .text s => some (.text s)
  | .blob bytes => some (.blob bytes)
  | l => (isKeyword "NULL" l).map (fun () => .null) <|> Value.ofNumber? false l

def literal : Reader Value := do
  match ← accept? (isSymbol '-') with
  | some () => accept (Value.ofNumber? true)
  | none =>
    match ← accept? (isSymbol '+') with
    | some () => accept (Value.ofNumber? false)
    | none => accept plain?

/-- At most `n + 1` items with a mark between any two of them. -/
def items {α : Type} (mark : Lexeme → Option Unit) (item : Reader α) : Nat → Reader (List α)
  | 0 => fail
  | n + 1 => do
    let a ← item
    match ← accept? mark with
    | some () => return a :: (← items mark item n)
    | none => return [a]

def separated {α : Type} (mark : Lexeme → Option Unit) (item : Reader α) : Reader (List α) :=
  fun tokens => items mark item tokens.length tokens

/-- Items with commas between them. -/
def list {α : Type} (item : Reader α) : Reader (List α) := separated (isSymbol ',') item

/-- A list between parentheses. -/
def parenthesized {α : Type} (item : Reader α) : Reader (List α) := do
  symbol '('
  let as ← list item
  symbol ')'
  return as

/-- The text of the first of some tokens, up to those that are left. -/
def sourceUpTo (tokens rest : List Token) : String :=
  String.ofList ((tokens.take (tokens.length - rest.length)).flatMap Token.source)

/-- A literal under a name; without one it is named by its text. -/
def namedValue : Reader (String × Value) := do
  let tokens ← get
  let value ← literal
  let text := sourceUpTo tokens (← get)
  match ← accept? (isKeyword "AS") with
  | some () => return (← name, value)
  | none => return (text, value)

/-- The words of a type. -/
def typeName : Reader String := fun tokens =>
  let words := tokens.takeWhile fun t => (name? t.lexeme).isSome
  .ok (" ".intercalate (words.map fun t => String.ofList t.source), tokens.drop words.length)

def column : Reader Column := do
  let name ← name
  return ⟨name, ← typeName⟩

/-- Words that stand together if the first of them is there. -/
def phrase? (first : String) (others : List String) : Reader Bool := do
  match ← accept? (isKeyword first) with
  | some () =>
    others.forM keyword
    return true
  | none => return false

def placedName (piece : Piece) : Reader PlacedName := do
  let tokens ← get
  let offset := (tokens.head?.map Token.offset).getD 0
  let name ← name
  return ⟨name, sourceUpTo tokens (← get), ⟨String.ofList piece.sql, offset⟩⟩

/-- A column with its relation. -/
def placedColumn (piece : Piece) : Reader PlacedColumn := do
  let relation ← placedName piece
  symbol '.'
  return ⟨⟨relation.name, ← name⟩, relation.place⟩

def equality (piece : Piece) : Reader (PlacedColumn × PlacedColumn) := do
  let left ← placedColumn piece
  symbol '='
  return (left, ← placedColumn piece)

/-- A list of equalities with `AND` between them. -/
def equalities (piece : Piece) : Reader (List (PlacedColumn × PlacedColumn)) :=
  separated (isKeyword "AND") (equality piece)

/-- A scan, after its first words. -/
def scanned (distinct : Bool) : Reader Scan := do
  keyword "FROM"
  return { distinct, source := ← relation }

/-- A scan after the word that starts a query. -/
def scan : Reader Scan := do
  let distinct := (← accept? (isKeyword "DISTINCT")).isSome
  symbol '*'
  scanned distinct

/-- The condition that a query in parentheses has rows, or has none. -/
def search (piece : Piece) : Reader Search := do
  let absent := (← accept? (isKeyword "NOT")).isSome
  keyword "EXISTS"
  symbol '('
  keyword "SELECT"
  let scan ← scan
  keyword "WHERE"
  let pairs ← equalities piece
  symbol ')'
  return ⟨absent, scan, pairs⟩

/-- The set operator that a lexeme is. -/
def setOp? (l : Lexeme) : Option Sql.SetOp :=
  [Sql.SetOp.except, .intersect].find? fun op => (isKeyword op.word l).isSome

/-- What may follow the relation of a query. -/
def afterScan (piece : Piece) (first : Scan) : Reader Query := do
  match ← accept? (isKeyword "WHERE") with
  | some () => return .filtered first (← search piece)
  | none =>
    match ← accept? setOp? with
    | some op =>
      keyword "SELECT"
      return .compound op first.source (← scan).source
    | none => return .rows first

def query (piece : Piece) : Reader Query := do
  keyword "SELECT"
  let distinct := (← accept? (isKeyword "DISTINCT")).isSome
  match ← accept? (isSymbol '*') with
  | some () => afterScan piece (← scanned distinct)
  | none => return .values (← list namedValue)

/-- The name of a new relation in a statement. -/
def newName (piece : Piece) : Reader NewName := do
  let unlessPresent ← phrase? "IF" ["NOT", "EXISTS"]
  let first ← placedName piece
  let (database, relation) ← match ← accept? (isSymbol '.') with
    | some () => pure (some first, ← placedName piece)
    | none => pure (none, first)
  let definition := String.ofList (piece.textFrom relation.place.offset)
  return { database, relation, definition, unlessPresent }

def oldName : Reader OldName := do
  let ifPresent ← phrase? "IF" ["EXISTS"]
  return ⟨← relation, ifPresent⟩

/-- A failure as a result, after which nothing is left to read. -/
def attempt {α : Type} (r : Reader α) : Reader (Except (List Token) α) := fun tokens =>
  match r tokens with
  | .ok (a, rest) => .ok (.ok a, rest)
  | .error left => .ok (.error left, [])

/-- What the next item of a list of columns can be. -/
inductive Position where
  | first
  | afterColumn
  | afterConstraint
  deriving DecidableEq, Repr

/-- The word starts a constraint that is not understood. -/
def isConstraint (l : Lexeme) : Option Unit :=
  ["PRIMARY", "UNIQUE", "CHECK", "FOREIGN"].findSome? fun w => isKeyword w l

/-- A column, or a constraint that is only named. -/
def columnItem (p : Position) : Reader (Option Column) := do
  if p = .first then return some (← column)
  else
    match ← accept? isConstraint with
    | some () => fail
    | none =>
      match ← accept? (isKeyword "CONSTRAINT") with
      | some () =>
        let _ ← name
        return none
      | none => if p = .afterConstraint then fail else return some (← column)

/-- An item, and whether another one follows. If not, the statement ends. -/
def itemAndMore (p : Position) : Reader (Option Column × Bool) := do
  let item ← columnItem p
  match ← accept? (isSymbol ',') with
  | some () => return (item, true)
  | none =>
    symbol ')'
    match ← get with
    | [] => return (item, false)
    | _ => fail

/-- The columns among at most `n` items up to the end of the statement. Tells also where it cannot
be read. -/
def columns (p : Position) : Nat → Reader (List Column × Option (List Token))
  | 0 => return ([], some [])
  | n + 1 => do
    match ← attempt (itemAndMore p) with
    | .error left => return ([], some left)
    | .ok (item, false) => return (item.toList, none)
    | .ok (item, true) =>
      let (cs, left) ← columns (if item.isSome then .afterColumn else .afterConstraint) n
      return (item.toList ++ cs, left)

/-- What a failure at the given tokens is reported as. -/
def syntaxError (piece : Piece) (tokens : List Token) : DbError :=
  let sql := String.ofList piece.sql
  let shown := fun (source : List Char) => "\"" ++ String.ofList source ++ "\""
  match tokens, piece.semicolon with
  | t :: _, _ =>
    if t.lexeme = .unknown then
      Place.error ⟨sql, t.offset⟩ ("unrecognized token: " ++ shown t.source)
    else Place.error ⟨sql, t.offset⟩ ("near " ++ shown t.source ++ ": syntax error")
  | [], some offset => Place.error ⟨sql, offset⟩ ("near " ++ shown [';'] ++ ": syntax error")
  | [], none => failure "incomplete input"

def create (piece : Piece) : Reader Statement := do
  match ← accept? (isKeyword "TABLE") with
  | some () =>
    let target ← newName piece
    symbol '('
    let (columns, left) ← columns .first (← get).length
    return .createTable target columns (left.map (syntaxError piece))
  | none =>
    keyword "VIEW"
    let target ← newName piece
    keyword "AS"
    return .createView target (← query piece)

def insert : Reader Statement := do
  keyword "INTO"
  let name ← relation
  keyword "VALUES"
  return .insert name (← list (parenthesized literal))

def drop : Reader Statement := do
  match ← accept? (isKeyword "TABLE") with
  | some () => return .dropTable (← oldName)
  | none =>
    keyword "VIEW"
    return .dropView (← oldName)

def delete : Reader Statement := do
  keyword "FROM"
  return .delete (← relation)

/-- A statement that starts with one of the keywords of changes. -/
def change? (piece : Piece) : Lexeme → Option (Reader Statement)
  | .word w =>
    match upper w with
    | "CREATE" => some (create piece)
    | "INSERT" => some insert
    | "DROP" => some drop
    | "DELETE" => some delete
    | _ => none
  | _ => none

def statement (piece : Piece) : Reader Statement := do
  match ← accept? (change? piece) with
  | some rest => rest
  | none => return .select (← query piece)

end Reader

/-- The statement of a piece. -/
def Piece.statement (p : Piece) : Except DbError Statement :=
  match Reader.statement p p.tokens with
  | .ok (s, []) => .ok s
  | .ok (_, t :: ts) => .error (Reader.syntaxError p (t :: ts))
  | .error tokens => .error (Reader.syntaxError p tokens)

/-- The statements of a text, without an empty one. Nothing after a null character is read. -/
def statements (sql : String) : List (Except DbError Statement) :=
  let read := sql.toList.takeWhile (· != '\x00')
  let unread := sql.toList.drop read.length
  ((pieces read).filter fun p => !p.tokens.isEmpty).map fun p =>
    { p with sql := p.sql ++ unread }.statement

end RelAlgebra.Store
