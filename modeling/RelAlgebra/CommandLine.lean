import RelAlgebra.CommandLine.Arguments
import RelAlgebra.CommandLine.Folder
import RelAlgebra.Settings
import RelAlgebra.Shell
import RelAlgebra.Store
import RelAlgebra.Text.Plain

/-!
The command `ra`: it reads the settings, connects, and runs the shell on a file or on the standard
input.
-/

namespace RelAlgebra

/-- The URL of a server names a host. -/
def Settings.hasHost (url : String) : Bool :=
  let rest := (url.toList.dropWhile (· != ':')).drop "://".length
  let address := if rest.contains '@' then (rest.dropWhile (· != '@')).drop 1 else rest
  !(address.takeWhile fun c => c != '/' && c != '?').isEmpty

/-- Connects to the database of the settings. `text?` tells what is in the file of a path, or
nothing if there can be no file. A file that is not empty is no database. -/
def Settings.connect (text? : String → Option String) (s : Settings) : Except Error Store := do
  match ← s.backend with
  | .sqlite path =>
    let before := path.toList.takeWhile (· != '\x00')
    if path = ":memory:" then return { dialect := s.dialect.getD .sqlite }
    else if before ≠ path.toList then
      .error (.database { message :=
        "nul byte found in provided data at position: " ++ toString (Text.width before) })
    else
      match text? path with
      | some text => return { dialect := s.dialect.getD .sqlite, isForeign := text ≠ "" }
      | none =>
        .error (.database
          { message := "unable to open database file: " ++ path, code := some 14 })
  | .postgres url =>
    let message :=
      if hasHost url then "error connecting to server" else "invalid configuration"
    .error (.database { message })

/-- The file that the database of the settings is kept in. -/
def Settings.databasePath? (s : Settings) : Option String :=
  match s.backend with
  | .ok (.sqlite path) => if path = ":memory:" then none else some path
  | _ => none

namespace CommandLine

/-- All that a run can see. -/
structure Setup where
  arguments : List String
  /-- The URL that the environment gives. -/
  url : Option String := none
  folder : Folder := {}
  stdin : List UInt8 := []

/-- All that a run leaves behind. -/
structure Outcome where
  code : Nat
  stdout : String := ""
  stderr : String := ""
  folder : Folder

def usageLine : String := "Usage: ra [OPTIONS] [CONFIG]\n"

def versionText : String := "ra " ++ Shell.version ++ "\n"

/-- Lines after the first one are set in. -/
def indented (text : String) : String :=
  String.ofList (text.toList.flatMap fun c =>
    if c = '\n' then '\n' :: List.replicate 10 ' ' else [c])

/-- A text that a terminal shows in bold. -/
def bold (text : String) : String := "\x1b[1m" ++ text ++ "\x1b[0m"

def optionText (short : Option String) (long value help : String) : String :=
  String.join
    ["  ", (short.map fun s => bold s ++ ", ").getD "    ", bold long, value, "\n          ",
      indented help, "\n"]

/-- The help as it is written for a terminal, with the URL that the environment gives. -/
def styledHelp (url : String) : String :=
  String.join
    ["Evaluate relational algebra against a SQL database\n\n",
      usageLine,
      "\nArguments:\n",
      "  [CONFIG]  TOML file with the connection settings\n",
      "\nOptions:\n",
      optionText (some "-i") "--input" " <FILE>"
        "Read commands from FILE instead of standard input",
      optionText (some "-o") "--output" " <FILE>" "Save a transcript of the session in FILE",
      optionText (some "-v") "--verbose" ""
        "Print parsed and validated trees with their output schemas",
      optionText none "--url" " <URL>"
        ("Database URL, overriding the one in CONFIG [env: RA_URL=" ++ url ++ "]"),
      optionText none "--dialect" " <postgresql|sqlite|mysql|db2>"
        "Generate SQL for this dialect instead of the backend's own",
      optionText (some "-h") "--help" "" "Print help",
      optionText (some "-V") "--version" "" "Print version"]

def helpText (url : Option String) : String := Text.plain (styledHelp (url.getD ""))

def usageText (f : Fault) : String :=
  "error: " ++ f.message ++ "\n\n" ++ usageLine ++ "\nFor more information, try '--help'.\n"

/-- The last words on an error. -/
def errorText (e : Error) : String := e.message ++ "\n\n"

/-- The settings of a request, with the text of its file if it names one. -/
def Request.settings (r : Request) (url : Option String)
    (read : String → Except PathFault String) : Except Error Settings := do
  let base ← match r.config with
    | none => pure {}
    | some path =>
      match read path with
      | .error fault => .error (.config (.unreadable path fault.message))
      | .ok text =>
        match Settings.parse? text with
        | some s => pure s
        | none => .error (.config (.malformed path))
  return (base.withUrl (r.url <|> url)).withDialect r.dialect

/-- The shell of a request before its first line. -/
def Request.shell (r : Request) (db : Store) : Shell Store :=
  { session := { conn := { db } }
    verbose := r.verbose
    showsPrompt := r.input.isNone
    console := { transcript := r.output.map fun _ => {} } }

/-- The lines a request is run on. A folder can be opened but not read. -/
def Request.reads (r : Request) (read : String → Except PathFault (List UInt8))
    (stdin : List UInt8) : Except Error (List Shell.Read) :=
  match r.input with
  | none => .ok (Shell.readsOf .one stdin)
  | some path =>
    match read path with
    | .ok bytes => .ok (Shell.readsOf .all bytes)
    | .error .folder => .ok [.failed (.io (.other PathFault.folder.message))]
    | .error fault => .error (.config (.inputFile path fault.message))

/-- The folder with the transcript in its file. -/
def Request.save (r : Request) (console : Shell.Console) (folder : Folder) : Folder :=
  match r.output.map folder.target, console.transcript with
  | some (.ok location), some transcript => folder.put location transcript.text
  | _, _ => folder

/-- What is left when the shell has ended, or has been given up. -/
def Request.outcome (r : Request) (folder : Folder) (shell : Shell Store) (failure : Option Error) :
    Outcome :=
  { code := if failure.isSome then 1 else 0
    stdout := shell.console.out.text
    stderr := shell.console.err.text ++ (failure.map errorText).getD ""
    folder := r.save shell.console folder }

/-- Runs the shell of a request. -/
def Request.converse (r : Request) (folder : Folder) (stdin : List UInt8) (db : Store) : Outcome :=
  let shell := (r.shell db).welcome
  let saved := r.save shell.console folder
  match r.reads (fun path => (saved.read path).map Text.bytes) stdin with
  | .error e => r.outcome folder shell (some e)
  | .ok reads =>
    let shell := shell.run reads
    match shell.phase with
    | .failed e => r.outcome folder shell (some e)
    | _ => r.outcome folder shell none

/-- The folder with the file of the database, which is made if it is not there. -/
def Folder.withDatabase (f : Folder) (s : Settings) : Folder :=
  match s.databasePath?.bind f.database? with
  | some location => if (f.find? location).isSome then f else f.put location ""
  | none => f

/-- What is in the file of a database. One that is not there will be made. -/
def Folder.databaseText? (f : Folder) (path : String) : Option String :=
  (f.database? path).map fun location => ((f.find? location).map File.text).getD ""

/-- Connects to the database and makes the file of the transcript, which spoils the database if that
is kept in the same file. Tells the folder after that. -/
def Request.start (r : Request) (url : Option String) (folder : Folder) :
    Except Error Store × Folder :=
  match r.settings url folder.read with
  | .error e => (.error e, folder)
  | .ok settings =>
    match settings.connect folder.databaseText? with
    | .error e => (.error e, folder)
    | .ok db =>
      let folder := folder.withDatabase settings
      match r.output.map fun path => (path, folder.target path) with
      | none => (.ok db, folder)
      | some (path, .error fault) => (.error (.config (.outputFile path fault.message)), folder)
      | some (_, .ok location) =>
        let isShared := settings.databasePath?.bind folder.database? = some location
        (.ok { db with isForeign := db.isForeign || isShared }, folder)

def run (s : Setup) : Outcome :=
  match Invocation.ofArguments s.arguments with
  | .error f => { code := 2, stderr := usageText f, folder := s.folder }
  | .ok .help => { code := 0, stdout := helpText s.url, folder := s.folder }
  | .ok .version => { code := 0, stdout := versionText, folder := s.folder }
  | .ok (.run r) =>
    match r.start s.url s.folder with
    | (.error e, folder) => { code := 1, stderr := errorText e, folder }
    | (.ok db, folder) => r.converse folder s.stdin db

end CommandLine

end RelAlgebra
