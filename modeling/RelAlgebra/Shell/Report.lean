import RelAlgebra.Session
import RelAlgebra.Shell.Console

/-!
The texts the shell writes, in the pieces in which it writes them.
-/

namespace RelAlgebra.Shell

def helpLines : List String :=
  ["Terminate your commands or expressions by \";\"",
    "",
    "Commands:",
    "\\help: print this message",
    "\\quit: exit ra",
    "\\list: list all relations in the database",
    "\\sqlexec_\x7bSTATEMENT\x7d: execute SQL in the database",
    "",
    "Relational algebra expressions:",
    "R: relation named by R",
    "\\select_\x7bCOND\x7d EXP: selection over an expression",
    "\\project_\x7bATTR_LIST\x7d EXP: projection of an expression",
    "EXP_1 \\join EXP_2: natural join between two expressions",
    "EXP_1 \\join_\x7bCOND\x7d EXP_2: theta-join between two expressions",
    "EXP_1 \\cross EXP_2: cross-product between two expressions",
    "EXP_1 \\union EXP_2: union between two expressions",
    "EXP_1 \\diff EXP_2: difference between two expressions",
    "EXP_1 \\intersect EXP_2: intersection between two expressions",
    "\\rename_\x7bNEW_ATTR_NAME_LIST\x7d EXP: rename all attributes of an expression"]

def helpText : String := String.join (helpLines.map (· ++ "\n"))

def version : String := "0.1.0"

def welcomeTexts : List String :=
  ["\n", "RA: an interactive relational algebra interpreter\n", "Version " ++ version ++ "\n",
    "Type \"\\help;\" for help\n", "\n"]

def byeTexts : List String := ["Bye!\n", "\n"]

def rule : String := "-----"

def ruleTexts : List String := [rule, "\n"]

/-- A value of a row. -/
def valueText (v : Option String) : String := v.getD "<NULL>"

def rowText (row : Row) : String := "|".intercalate (row.map valueText)

/-- A table: its columns, its rows and their number. -/
def tableTexts (t : QueryResult) : List String :=
  ["Output schema: (", columnsText t.columns, ")\n"] ++ ruleTexts ++
    t.rows.flatMap (fun row => [rowText row, "\n"]) ++ ruleTexts ++
    ["Total number of rows: ", toString t.rows.length, "\n", "\n"]

def detailsTexts (e : DbError) : List String := [e.details, "\n"]

def errorTexts (e : Error) : List String := e.parts ++ ["\n"]

def listing : Except DbError (List String) → List Piece
  | .ok names =>
    outPieces (ruleTexts ++ names.flatMap (fun name => [name, "\n"]) ++ ruleTexts ++
      ["Total of ", toString names.length, " table(s) found.\n", "\n"])
  | .error e =>
    errPieces (["Unexpected error obtaining list of tables from database\n"] ++ detailsTexts e ++
      ["\n"])

/-- One result of a batch of SQL, with its number. -/
def commandTexts (result : Except DbError CommandResult) (n : Nat) : List String :=
  match result with
  | .ok (.rows t) => ["*** Result ", toString n, " is a table:\n"] ++ tableTexts t
  | .ok (.count k) => ["*** Result ", toString n, " is an update count of ", toString k, "\n"]
  | .error e => ["*** Result ", toString n, " is an error: ", e.message, "\n"]

def commandReport (results : List (Except DbError CommandResult)) : List Piece :=
  outPieces ((results.zipIdx 1).flatMap fun (result, n) => commandTexts result n)

/-- The trees of an evaluation, which only a verbose shell shows. -/
def treeTexts (e : Evaluation) : List String :=
  ["Parsed query:\n", e.parsedTree, "=====\n"] ++
    match e.validatedTree with
    | some tree => ["Validated query:\n", tree, "=====\n"]
    | none => []

/-- The table, or what went wrong. -/
def resultReport (errorTree : Option String) : Except Error QueryResult → List Piece
  | .ok t => outPieces (tableTexts t)
  | .error (.validation _ _ reason source) =>
    errPieces (["Error validating subquery:\n"] ++ errorTree.toList ++
      (match source with
        | some e => detailsTexts e
        | none => [reason, "\n"]) ++ ["\n"])
  | .error (.execution e) =>
    errPieces (["Unexpected error executing validated query:\n"] ++ detailsTexts e ++ ["\n"])
  | .error e =>
    errPieces (["Error evaluating query:\n"] ++ errorTree.toList ++ errorTexts e ++ ["\n"])

def cleanupTexts (e : Error) : List String :=
  ["Unexpected error cleaning up query\n"] ++
    (match e.dbError? with
      | some d => detailsTexts d
      | none => errorTexts e) ++ ["\n"]

def evaluationReport (verbose : Bool) (e : Evaluation) : List Piece :=
  (if verbose then outPieces (treeTexts e) else []) ++ resultReport e.errorTree e.result ++
    errPieces (e.cleanupErrors.flatMap cleanupTexts)

def syntaxReport (e : Error) : List Piece :=
  errPieces (["Error parsing input:\n"] ++ errorTexts e ++ ["Rest of input skipped\n", "\n"])

/-- An error after which the shell goes on. -/
def recoveryReport (e : Error) : List Piece := errPieces (errorTexts e ++ ["\n"])

def unterminatedReport : List Piece :=
  errPieces ["Error parsing input:\n", "statement not terminated by \";\"\n", "\n"]

end RelAlgebra.Shell
