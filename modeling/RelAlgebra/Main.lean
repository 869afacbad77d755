import RelAlgebra.CommandLine

/-!
The program `ra`. It hands files and lines to the shell and writes what the shell says.
-/

namespace RelAlgebra.CommandLine

def pathFault : IO.Error → PathFault
  | .noFileOrDirectory .. => .missing
  | .inappropriateType _ code details => ofCode code details
  | .invalidArgument _ code details => ofCode code details
  | e => .other (toString e)
where
  /-- The fault of a code of the operating system. -/
  ofCode (code : UInt32) (details : String) : PathFault :=
    match code with
    | 20 => .underFile
    | 21 => .folder
    | 36 => .tooLong
    | _ => .other details

/-- Tries to open or read what a path names. -/
def attempt {α : Type} (action : IO α) : IO (Except PathFault α) := do
  try
    return .ok (← action)
  catch e =>
    return .error (pathFault e)

/-- The bytes of the file at a path. -/
def readBytes (path : String) : IO (Except PathFault (List UInt8)) :=
  attempt do
    let bytes ← (← IO.FS.Handle.mk path .read).readBinToEnd
    return bytes.toList

/-- The text of the file at a path. -/
def readText (path : String) : IO (Except PathFault String) := do
  let bytes ← readBytes path
  return bytes.bind fun bs =>
    match Text.ofBytes? bs with
    | some text => .ok text
    | none => .error (.other IoFault.invalidUtf8.message)

/-- Writes what the console holds, and empties it. -/
def drain (transcript : Option IO.FS.Handle) (s : Shell Store) : IO (Shell Store) := do
  let out ← IO.getStdout
  out.write ⟨s.console.out.held⟩
  out.flush
  let err ← IO.getStderr
  err.write ⟨s.console.err.held⟩
  err.flush
  match transcript, s.console.transcript with
  | some handle, some copy => do
    handle.write ⟨copy.held⟩
    handle.flush
  | _, _ => pure ()
  return { s with console := { transcript := s.console.transcript.map fun _ => {} } }

/-- Gives the shell line after line of the standard input. -/
partial def interact (transcript : Option IO.FS.Handle) (s : Shell Store) : IO (Shell Store) := do
  let s ← drain transcript s.ask
  if s.isReading then
    let line ← (← IO.getStdin).getLine
    let read := if line.isEmpty then .endOfInput else Shell.readOf .one (Text.bytes line)
    let s ← drain transcript (s.heed read)
    if s.isReading then interact transcript s else return s
  else return s

/-- Says the last words on an error. -/
def fail (e : Error) : IO UInt32 := do
  IO.eprint (errorText e)
  return 1

/-- Runs the shell of a request on a database. -/
def Request.serve (r : Request) (transcript : Option IO.FS.Handle) (db : Store) : IO UInt32 := do
  let shell ← drain transcript (r.shell db).welcome
  let ended ← match r.input with
    | none => interact transcript shell
    | some path => do
      let bytes ← readBytes path
      match r.reads (fun _ => bytes) [] with
      | .error e => return ← fail e
      | .ok reads => drain transcript (shell.run reads)
  match ended.phase with
  | .failed e => fail e
  | _ => return 0

/-- The text of the file at a path, which is made if it is not there. -/
def openedText? (path : String) : IO (Option String) := do
  match ← attempt (IO.FS.Handle.mk path .append) with
  | .ok _ => return (← readBytes path).toOption.map Text.ofBytes
  | .error _ => return none

/-- Reads the settings of a request, connects, and runs its shell. -/
def Request.perform (r : Request) (url : Option String) : IO UInt32 := do
  let text ← match r.config with
    | some path => readText path
    | none => pure (.ok "")
  match r.settings url fun _ => text with
  | .error e => fail e
  | .ok settings =>
    let kept ← match settings.databasePath? with
      | some path => openedText? path
      | none => pure none
    match settings.connect fun _ => kept with
    | .error e => fail e
    | .ok db =>
      match r.output with
      | none => r.serve none db
      | some path =>
        match ← attempt (IO.FS.Handle.mk path .write) with
        | .error fault => fail (.config (.outputFile path fault.message))
        | .ok handle => r.serve (some handle) db

end RelAlgebra.CommandLine

open RelAlgebra.CommandLine in
/-- Runs what the arguments ask for. -/
def main (arguments : List String) : IO UInt32 := do
  let url ← IO.getEnv "RA_URL"
  match Invocation.ofArguments arguments with
  | .error fault =>
    IO.eprint (usageText fault)
    return 2
  | .ok .help =>
    IO.print (helpText url)
    return 0
  | .ok .version =>
    IO.print versionText
    return 0
  | .ok (.run request) => request.perform url
