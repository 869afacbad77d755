import RelAlgebra.Text.Width

/-!
Files and the paths that lead to them. A path is followed name by name through folders, and what
stops it is told by a `PathFault`. The folder that a database is in is found by the names alone.
-/

namespace RelAlgebra.CommandLine

/-- Why a path cannot be opened. -/
inductive PathFault where
  | missing
  | underFile
  | folder
  | tooLong
  | other (reason : String)
  deriving DecidableEq, Repr

def PathFault.message : PathFault → String
  | missing => "No such file or directory (os error 2)"
  | underFile => "Not a directory (os error 20)"
  | folder => "Is a directory (os error 21)"
  | tooLong => "File name too long (os error 36)"
  | other reason => reason

abbrev Name := List Char

namespace Name

/-- Stands for the folder it is looked up in. -/
def here : Name := ['.']

/-- Stands for the folder above the one it is looked up in. -/
def above : Name := ['.', '.']

def isDots (name : Name) : Bool := name == here || name == above

def isTooLong (name : Name) : Bool := 255 < Text.width name

end Name

/-- The folder that the names of a location start from. -/
inductive Base where
  /-- The folder that is so many steps above the working folder. -/
  | working (up : Nat)
  | root
  deriving DecidableEq, Repr

/-- A place for a file or a folder. No name in it stands for another folder. -/
structure Location where
  base : Base
  names : List Name
  deriving DecidableEq, Repr

namespace Location

def down (l : Location) (name : Name) : Location := { l with names := l.names ++ [name] }

/-- The folder of a location. The root is its own folder. -/
def up (l : Location) : Location :=
  if l.names.isEmpty then
    match l.base with
    | .working n => ⟨.working (n + 1), []⟩
    | .root => l
  else { l with names := l.names.dropLast }

/-- The second location is inside the first one. -/
def contains (l m : Location) : Bool :=
  l.base == m.base && l.names.isPrefixOf m.names && l.names != m.names

end Location

/-- A path as it is written. -/
structure Path where
  base : Base
  names : List Name
  /-- The last name is said to be that of a folder. -/
  endsInSlash : Bool
  deriving DecidableEq, Repr

namespace Path

def ofText (text : String) : Path :=
  let cs := text.toList
  { base := if cs.head? = some '/' then .root else .working 0
    names := (cs.splitOn '/').filter (· ≠ [])
    endsInSlash := cs.getLast? == some '/' }

def start (p : Path) : Location := ⟨p.base, []⟩

/-- A text that is longer than any path. -/
def isTooLong (text : String) : Bool := 4096 ≤ Text.width text.toList

/-- Where the names lead if each of them is that of a folder, and `..` undoes the name before it. -/
def step (l : Location) (name : Name) : Location :=
  if name = .here then l else if name = .above then l.up else l.down name

def location (p : Path) : Location := p.names.foldl step p.start

end Path

structure File where
  location : Location
  text : String
  deriving DecidableEq, Repr

/-- The file that is always empty. -/
def File.nothing : File := ⟨⟨.root, ["dev".toList, "null".toList]⟩, ""⟩

/-- The folders outside the working folder that are known. -/
def outerFolders : List Location := [⟨.root, ["dev".toList]⟩, ⟨.root, ["tmp".toList]⟩]

/-- The files that a run can open. -/
structure Folder where
  files : List File := []
  deriving DecidableEq, Repr

namespace Folder

def ofTexts (texts : List (String × String)) : Folder :=
  { files := texts.map fun (path, text) => ⟨(Path.ofText path).location, text⟩ }

def find? (f : Folder) (l : Location) : Option File :=
  (File.nothing :: f.files).find? fun file => file.location == l

def isFolder (f : Folder) (l : Location) : Bool :=
  l.names.isEmpty || l ∈ outerFolders || f.files.any fun file => l.contains file.location

/-- Goes on from one folder to another. -/
def enter (f : Folder) (l : Location) (name : Name) : Except PathFault Location :=
  if name.isDots then .ok (Path.step l name)
  else if name.isTooLong then .error .tooLong
  else if f.isFolder (l.down name) then .ok (l.down name)
  else if (f.find? (l.down name)).isSome then .error .underFile
  else .error .missing

def follow (f : Folder) (l : Location) (names : List Name) : Except PathFault Location :=
  names.foldlM f.enter l

/-- The folder and the last name of a path, if it can be followed so far. -/
def approach (f : Folder) (path : String) : Except PathFault (Path × Location × Name) :=
  if Path.isTooLong path then .error .tooLong
  else
    let p := Path.ofText path
    match p.names.getLast? with
    | none => .error .folder
    | some last => (f.follow p.start p.names.dropLast).map fun l => (p, l, last)

/-- The text of a file. -/
def read (f : Folder) (path : String) : Except PathFault String := do
  let (p, l, last) ← f.approach path
  if last.isDots || p.endsInSlash then
    let _ ← f.enter l last
    .error .folder
  else if last.isTooLong then .error .tooLong
  else
    match f.find? (l.down last) with
    | some file => return file.text
    | none => .error (if f.isFolder (l.down last) then .folder else .missing)

/-- Where a file is made or emptied for a path. -/
def target (f : Folder) (path : String) : Except PathFault Location := do
  let (p, l, last) ← f.approach path
  if last.isDots || p.endsInSlash then .error .folder
  else if last.isTooLong then .error .tooLong
  else if f.isFolder (l.down last) then .error .folder
  else return l.down last

/-- A name can be looked up in a folder, whether it is there or not. -/
def isProper (f : Folder) (l : Location) (name : Name) : Bool :=
  match f.follow ⟨l.base, []⟩ l.names with
  | .ok _ => !name.isTooLong
  | .error fault => fault == .missing

/-- Where the database of a path is kept, or is to be made. -/
def database? (f : Folder) (path : String) : Option Location := do
  let p := Path.ofText path
  let l ← p.names.foldlM
    (fun l name =>
      if name.isDots || f.isProper l name then some (Path.step l name) else none)
    p.start
  if f.isFolder l || (f.follow ⟨l.base, []⟩ l.names.dropLast).isOk.not then none else some l

/-- Puts a text into the file of a location, which is made if it is not there. -/
def put (f : Folder) (l : Location) (text : String) : Folder :=
  if (f.find? l).isSome then
    { files := f.files.map fun file => if file.location = l then { file with text } else file }
  else { files := f.files ++ [⟨l, text⟩] }

end Folder

end RelAlgebra.CommandLine
