import RelAlgebra.Dialect

/-!
The arguments of the command line. The first one that is wrong, or that asks for the help or the
version, settles the matter.
-/

namespace RelAlgebra.CommandLine

/-- What a run is to do. -/
structure Request where
  config : Option String := none
  input : Option String := none
  output : Option String := none
  verbose : Bool := false
  url : Option String := none
  dialect : Option Dialect := none
  deriving DecidableEq, Repr

/-- The options that take a value. -/
inductive Setting where
  | input
  | output
  | url
  | dialect
  deriving DecidableEq, Repr

/-- What an option does. -/
inductive Action where
  | set (s : Setting)
  | verbose
  | help
  | version
  deriving DecidableEq, Repr

inductive Fault where
  | unexpected (argument : String)
  | noValue (option : String)
  | unexpectedValue (option value : String)
  | invalidValue (option value : String)
  | repeated (option : String)
  deriving DecidableEq, Repr

def Fault.message : Fault → String
  | unexpected argument => "unexpected argument '" ++ argument ++ "' found"
  | noValue option => "a value is required for '" ++ option ++ "' but none was supplied"
  | unexpectedValue option value =>
    "unexpected value '" ++ value ++ "' for '" ++ option ++ "' found; no more were expected"
  | invalidValue option value => "invalid value '" ++ value ++ "' for '" ++ option ++ "'"
  | repeated option => "the argument '" ++ option ++ "' cannot be used multiple times"

inductive Invocation where
  | run (r : Request)
  | help
  | version
  deriving DecidableEq, Repr

def Setting.label : Setting → String
  | input => "--input <FILE>"
  | output => "--output <FILE>"
  | url => "--url <URL>"
  | dialect => "--dialect <postgresql|sqlite|mysql|db2>"

def configLabel : String := "[CONFIG]"

def verboseLabel : String := "--verbose"

/-- The option of a name after two dashes. -/
def ofLongName? : String → Option Action
  | "input" => some (.set .input)
  | "output" => some (.set .output)
  | "verbose" => some .verbose
  | "url" => some (.set .url)
  | "dialect" => some (.set .dialect)
  | "help" => some .help
  | "version" => some .version
  | _ => none

/-- The option of a letter after one dash. -/
def ofLetter? : Char → Option Action
  | 'i' => some (.set .input)
  | 'o' => some (.set .output)
  | 'v' => some .verbose
  | 'h' => some .help
  | 'V' => some .version
  | _ => none

namespace Request

/-- A value that is given once. -/
def once {α : Type} (label : String) (a : α) : Option α → Except Fault (Option α)
  | none => .ok (some a)
  | some _ => .error (.repeated label)

/-- The path of a file, which is never empty. -/
def path (label value : String) : Except Fault String :=
  if value.isEmpty then .error (.invalidValue label value) else .ok value

def set (r : Request) (s : Setting) (value : String) : Except Fault Request := do
  let label := s.label
  match s with
  | .input => return { r with input := ← once label (← path label value) r.input }
  | .output => return { r with output := ← once label (← path label value) r.output }
  | .url => return { r with url := ← once label value r.url }
  | .dialect =>
    match Dialect.parse value with
    | .ok d => return { r with dialect := ← once label d r.dialect }
    | .error _ => .error (.invalidValue label value)

def setVerbose (r : Request) : Except Fault Request :=
  if r.verbose then .error (.repeated verboseLabel) else .ok { r with verbose := true }

/-- Takes an argument that is no option. -/
def setConfig (r : Request) (value : String) : Except Fault Request :=
  match r.config with
  | none => (path configLabel value).map fun p => { r with config := some p }
  | some _ => .error (.unexpected value)

end Request

/-- Why no more arguments are read. -/
inductive Stop where
  | fault (f : Fault)
  | help
  | version
  deriving DecidableEq, Repr

/-- How the next argument is read. -/
inductive Mode where
  | options
  /-- It is the value of an option. -/
  | value (s : Setting)
  /-- It is no option, whatever it starts with. -/
  | plain
  deriving DecidableEq, Repr

structure Reading where
  request : Request := {}
  mode : Mode := .options
  deriving DecidableEq, Repr

namespace Reading

def continueWith (r : Reading) : Except Fault Request → Except Stop Reading
  | .ok request => .ok { r with request }
  | .error f => .error (.fault f)

/-- An option with a value that is joined to it, if there is one. -/
def act (r : Reading) (name : String) (joined : Option String) : Action → Except Stop Reading
  | .set s =>
    match joined with
    | some value => r.continueWith (r.request.set s value)
    | none => .ok { r with mode := .value s }
  | action =>
    match joined, action with
    | some value, _ => .error (.fault (.unexpectedValue name value))
    | none, .help => .error .help
    | none, .version => .error .version
    | none, _ => r.continueWith r.request.setVerbose

/-- The letters after a dash. What follows an option with a value is its value. -/
def letters (r : Reading) : List Char → Except Stop Reading
  | [] => .ok r
  | c :: cs =>
    match ofLetter? c with
    | none => .error (.fault (.unexpected (String.ofList ['-', c])))
    | some (.set s) =>
      match cs with
      | [] => .ok { r with mode := .value s }
      | '=' :: value => r.continueWith (r.request.set s (String.ofList value))
      | value => r.continueWith (r.request.set s (String.ofList value))
    | some action => do (← r.act (String.ofList ['-', c]) none action).letters cs

/-- The text after two dashes: a name, and maybe a value after an equals sign. -/
def long (r : Reading) (text : List Char) : Except Stop Reading :=
  let name := String.ofList (text.takeWhile (· != '='))
  let joined := match text.dropWhile (· != '=') with
    | [] => none
    | _ :: value => some (String.ofList value)
  match ofLongName? name with
  | none => .error (.fault (.unexpected ("--" ++ name)))
  | some action => r.act ("--" ++ name) joined action

/-- Takes one argument. -/
def step (r : Reading) (argument : String) : Except Stop Reading :=
  match r.mode, argument.toList with
  | .plain, _ => r.continueWith (r.request.setConfig argument)
  | .value s, '-' :: _ :: _ => .error (.fault (.noValue s.label))
  | .value s, _ => { r with mode := .options }.continueWith (r.request.set s argument)
  | .options, ['-', '-'] => .ok { r with mode := .plain }
  | .options, '-' :: '-' :: text => r.long text
  | .options, '-' :: c :: cs => r.letters (c :: cs)
  | .options, _ => r.continueWith (r.request.setConfig argument)

/-- The request after the last argument. -/
def finish (r : Reading) : Except Stop Request :=
  match r.mode with
  | .value s => .error (.fault (.noValue s.label))
  | _ => .ok r.request

def run (arguments : List String) : Except Stop Request := do
  (← arguments.foldlM step {}).finish

end Reading

/-- What the arguments ask for. -/
def Invocation.ofArguments (arguments : List String) : Except Fault Invocation :=
  match Reading.run arguments with
  | .ok r => .ok (.run r)
  | .error .help => .ok .help
  | .error .version => .ok .version
  | .error (.fault f) => .error f

end RelAlgebra.CommandLine
