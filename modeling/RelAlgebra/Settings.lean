import RelAlgebra.Dialect
import RelAlgebra.Settings.Document

/-!
Connection settings: which database to use, and for which dialect to write SQL.
-/

namespace RelAlgebra

structure Settings where
  url : Option String := none
  schema : Option String := none
  user : Option String := none
  password : Option String := none
  dialect : Option Dialect := none
  deriving DecidableEq, Repr

/-- The database a URL names. -/
inductive Backend where
  | postgres (url : String)
  /-- The path of a file, or `:memory:`. -/
  | sqlite (path : String)
  deriving DecidableEq, Repr

namespace Settings

/-- Sets what an entry names. A name is known and is set once. -/
def set (s : Settings) (e : Entry) : Option Settings :=
  match e.key, s with
  | "url", { url := none, .. } => some { s with url := some e.value }
  | "schema", { schema := none, .. } => some { s with schema := some e.value }
  | "user", { user := none, .. } => some { s with user := some e.value }
  | "password", { password := none, .. } => some { s with password := some e.value }
  | "dialect", { dialect := none, .. } =>
    (Dialect.ofName? e.value).map fun d => { s with dialect := some d }
  | _, _ => none

/-- The settings of a document; `none` if it is not one of settings. -/
def parse? (text : String) : Option Settings := do
  (← document? text).foldlM set {}

/-- Replaces the URL, if there is another one. -/
def withUrl (s : Settings) (url : Option String) : Settings := { s with url := url <|> s.url }

/-- Replaces the dialect, if there is another one. -/
def withDialect (s : Settings) (dialect : Option Dialect) : Settings :=
  { s with dialect := dialect <|> s.dialect }

/-- The schema whose relations are listed. -/
def listedSchema (s : Settings) : String := s.schema.getD "public"

/-- What is left of a text after a given start. -/
def after? (start text : String) : Option String :=
  if start.toList.isPrefixOf text.toList then
    some (String.ofList (text.toList.drop start.toList.length))
  else none

def backend (s : Settings) : Except Error Backend :=
  match s.url with
  | none => .error (.config .noUrl)
  | some url =>
    match after? "sqlite:" url with
    | some rest =>
      let path := (after? "//" rest).getD rest
      if path.isEmpty then .error (.config .noSqlitePath) else .ok (.sqlite path)
    | none =>
      if (after? "postgres://" url).isSome || (after? "postgresql://" url).isSome then
        .ok (.postgres url)
      else .error (.config (.unsupportedUrl url))

end Settings

end RelAlgebra
