import RelAlgebra.Text.Quoted
import RelAlgebra.Token

/-!
What can go wrong, and how it is worded. `Error.message` is the text shown for an error, and
`Error.parts` the pieces it is written in.
-/

namespace RelAlgebra

/-- A failure reported by a database: its message and, where it gives one, its error code. -/
structure DbError where
  message : String
  code : Option Int := none
  deriving DecidableEq, Repr

/-- The message and the code, a line each. -/
def DbError.details (e : DbError) : String :=
  "Error message: " ++ e.message ++
    match e.code with
    | some n => "\nError code: " ++ toString n
    | none => ""

/-- Why a text is no statement. -/
inductive SyntaxFault where
  | unknownOperator (word : String)
  | unterminatedParameter
  | parameterRequired (word : String)
  | parameterForbidden (word : String)
  | unexpectedCharacter (c : Char)
  | unbalancedParenthesis
  | unexpectedClosing
  | expressionExpected
  | operatorFound (k : Keyword)
  | commandFound (c : Command)
  | inputAfterCommand
  | inputAfterExpression
  /-- A fault that a source of lines words itself. -/
  | other (text : String)
  deriving DecidableEq, Repr

namespace SyntaxFault

/-- The command as it is shown in a message. -/
def shown : Command → String
  | .sqlExec sql => "SqlExec(" ++ Text.quoted sql ++ ")"
  | c => c.keyword.title

def message : SyntaxFault → String
  | unknownOperator word => "unknown operator \\" ++ word
  | unterminatedParameter => "unterminated operator parameter"
  | parameterRequired word =>
    "\\" ++ word ++ " requires a parameter: " ++ withParameter word "..."
  | parameterForbidden word => "\\" ++ word ++ " does not take a parameter"
  | unexpectedCharacter c => "unexpected character '" ++ c.toString ++ "'"
  | unbalancedParenthesis => "unbalanced parenthesis"
  | unexpectedClosing => "unexpected ')'"
  | expressionExpected => "expected an expression"
  | operatorFound k => "expected an expression, found " ++ k.title ++ " operator"
  | commandFound c => "expected an expression, found " ++ shown c
  | inputAfterCommand => "unexpected input after command"
  | inputAfterExpression => "unexpected input after expression"
  | other text => text

end SyntaxFault

/-- Why an argument is refused. -/
inductive ArgumentFault where
  | unknownDialect (name : String)
  | other (text : String)
  deriving DecidableEq, Repr

def ArgumentFault.message : ArgumentFault → String
  | unknownDialect name => "unknown dialect: " ++ name
  | other text => text

/-- Why the connection settings cannot be used. -/
inductive ConfigFault where
  | noUrl
  | noSqlitePath
  | unsupportedUrl (url : String)
  | unreadable (path reason : String)
  | malformed (path : String)
  | inputFile (path reason : String)
  | outputFile (path reason : String)
  | other (text : String)
  deriving DecidableEq, Repr

def ConfigFault.message : ConfigFault → String
  | noUrl => "no database url: set `url` in the config file, pass --url, or set RA_URL"
  | noSqlitePath => "sqlite url has no path"
  | unsupportedUrl url => "unsupported database url: " ++ url
  | unreadable path reason => "cannot read " ++ path ++ ": " ++ reason
  | malformed path => "cannot parse " ++ path
  | inputFile path reason => "cannot open input file " ++ path ++ ": " ++ reason
  | outputFile path reason => "cannot open output file " ++ path ++ ": " ++ reason
  | other text => text

/-- Why reading or writing failed. -/
inductive IoFault where
  | writerFull
  | nothingWritten
  | invalidUtf8
  | other (text : String)
  deriving DecidableEq, Repr

def IoFault.message : IoFault → String
  | writerFull => "writer full"
  | nothingWritten => "failed to write whole buffer"
  | invalidUtf8 => "stream did not contain valid UTF-8"
  | other text => text

/-- Steps taken out of order. -/
inductive InternalFault where
  /-- The SQL of an operator was asked of a node with another operator. -/
  | wrongOperator (generator operator : String)
  | schemaNotValidated (view : String)
  | executedWhile (view status : String)
  | other (text : String)
  deriving DecidableEq, Repr

def InternalFault.message : InternalFault → String
  | wrongOperator generator operator =>
    generator ++ " called on non-" ++ operator ++ " node"
  | schemaNotValidated view => "schema of " ++ view ++ " requested before it was validated"
  | executedWhile view status => "execute called on " ++ view ++ " while " ++ status
  | other text => text

inductive Error where
  | parse (offset : Nat) (fault : SyntaxFault)
  | invalidArgument (fault : ArgumentFault)
  /-- The view of a node could not be made; `source` is there when the database refused it. -/
  | validation (view operator reason : String) (source : Option DbError)
  /-- The view of the root was made, but querying it failed. -/
  | execution (source : DbError)
  /-- A temporary view could not be dropped. -/
  | cleanup (view : String) (source : DbError)
  | database (source : DbError)
  | config (fault : ConfigFault)
  | io (fault : IoFault)
  | internal (fault : InternalFault)
  deriving DecidableEq, Repr

/-- How an error is reported, and whether the interpreter goes on after it. -/
inductive ErrorKind where
  | user
  | validation
  | execution
  | cleanup
  | system
  | internal
  deriving DecidableEq, Repr

def ErrorKind.name : ErrorKind → String
  | user => "USER"
  | validation => "VALIDATION"
  | execution => "EXECUTION"
  | cleanup => "CLEANUP"
  | system => "SYSTEM"
  | internal => "INTERNAL"

namespace Error

def kind : Error → ErrorKind
  | parse .. | invalidArgument _ => .user
  | validation .. => .validation
  | execution _ => .execution
  | cleanup .. => .cleanup
  | database _ | config _ | io _ => .system
  | internal _ => .internal

/-- Only a failure to read or write ends the interpreter. -/
def isFatal : Error → Bool
  | io _ => true
  | _ => false

/-- The failure of the database behind an error. -/
def dbError? : Error → Option DbError
  | validation _ _ _ source => source
  | execution source | cleanup _ source | database source => some source
  | _ => none

/-- The pieces in which the message is written. -/
def parts : Error → List String
  | parse offset fault => ["parse error at offset ", toString offset, ": ", fault.message]
  | invalidArgument fault => ["invalid argument: ", fault.message]
  | validation view operator reason _ =>
    ["error validating ", operator, " (", view, "): ", reason]
  | execution source => ["error executing validated query: ", source.message]
  | cleanup view source => ["error dropping view ", view, ": ", source.message]
  | database source => ["database error: ", source.message]
  | config fault => ["configuration error: ", fault.message]
  | io fault => ["I/O error: ", fault.message]
  | internal fault => ["internal error: ", fault.message]

def message (e : Error) : String := String.join e.parts

end Error

end RelAlgebra
