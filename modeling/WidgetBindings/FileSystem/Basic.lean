import WidgetBindings.FileSystem.Path
import WidgetBindings.Text.Quoted

namespace WidgetBindings

/-! Directories and files as far as reading one file and writing another can notice them.

A location is the list of names from the root. The root, the working directory and everything
between them exist; all else is listed.
-/

abbrev Location := List Text

inductive Node
  | directory
  | file (content : Text)
deriving DecidableEq, Repr

structure FileSystem where
  workingDirectory : Location
  entries : List (Location × Node) := []
deriving DecidableEq, Repr

inductive FileFault
  | missing
  | alreadyExists
  | notDirectory
  | isDirectory
  | nameTooLong
  | nullCharacter
  | tooDeep
deriving DecidableEq, Repr

namespace FileFault

/-- The file system numbers its faults. A path with a null character never gets that far, and neither
do too many directories at once. -/
def number? : FileFault → Option Nat
  | .missing => some 2
  | .alreadyExists => some 17
  | .notDirectory => some 20
  | .isDirectory => some 21
  | .nameTooLong => some 36
  | .nullCharacter | .tooDeep => none

def description : FileFault → Text
  | .missing => "No such file or directory"
  | .alreadyExists => "File exists"
  | .notDirectory => "Not a directory"
  | .isDirectory => "Is a directory"
  | .nameTooLong => "File name too long"
  | .nullCharacter => "embedded null byte"
  | .tooDeep => "maximum recursion depth exceeded while calling a Python object"

end FileFault

structure FileError where
  fault : FileFault
  path : Path
deriving DecidableEq, Repr

def FileError.message (error : FileError) : Text :=
  match error.fault.number? with
  | some number =>
      "[Errno " ++ Text.ofNat number ++ "] " ++ error.fault.description ++ ": " ++
        Text.quoted error.path.text
  | none => error.fault.description

/-- In bytes, for one name. -/
def maxNameLength : Nat := 255

/-- In bytes, for the whole text of a path. -/
def maxPathLength : Nat := 4095

/-- As many directories, one within the other, can be made at once. -/
def maxNewDirectories : Nat := 985

/-- What several steps leave behind, and why the last of them failed if it did. A failing step changes
nothing, but the steps before it have been taken. -/
structure Change where
  files : FileSystem
  error? : Option FileError := none
deriving DecidableEq, Repr

def FileSystem.attempt (files : FileSystem) : Except FileError FileSystem → Change
  | .ok changed => { files := changed }
  | .error error => { files, error? := some error }

namespace Change

def andThen (change : Change) (step : FileSystem → Except FileError FileSystem) : Change :=
  match change.error? with
  | some _ => change
  | none => change.files.attempt (step change.files)

/-- The file system behind steps that all succeeded. -/
def toOption (change : Change) : Option FileSystem :=
  match change.error? with
  | some _ => none
  | none => some change.files

end Change

namespace FileSystem

variable (files : FileSystem)

def node? (location : Location) : Option Node :=
  if location.isPrefixOf files.workingDirectory then some .directory
  else files.entries.lookup location

def put (location : Location) (node : Node) : FileSystem :=
  { files with entries := (location, node) :: files.entries.filter (·.1 != location) }

/-- Follows names from a location. Every step starts in a directory; what the last one leads to may
be missing. -/
def descend (location : Location) : List Text → Except FileFault Location
  | [] => .ok location
  | name :: rest =>
      match files.node? location with
      | none => .error .missing
      | some (.file _) => .error .notDirectory
      | some .directory =>
          if maxNameLength < Text.utf8Length name then .error .nameTooLong
          else descend (if name = ['.', '.'] then location.dropLast else location ++ [name]) rest

def locate (path : Path) : Except FileFault Location :=
  if path.text.contains '\x00' then .error .nullCharacter
  else if maxPathLength < Text.utf8Length path.text then .error .nameTooLong
  else files.descend (if path.anchor = .relative then files.workingDirectory else []) path.names

def stat? (path : Path) : Option Node :=
  match files.locate path with
  | .ok location => files.node? location
  | .error _ => none

/-- A path that leads nowhere is no file. Only one that is too long cannot be asked about. -/
def isFile (path : Path) : Except FileError Bool :=
  match files.locate path with
  | .error .nameTooLong => .error ⟨.nameTooLong, path⟩
  | .error _ => .ok false
  | .ok location =>
      match files.node? location with
      | some (.file _) => .ok true
      | _ => .ok false

def isDirectory (path : Path) : Bool :=
  files.stat? path == some .directory

def createDirectory (path : Path) : Except FileError FileSystem :=
  match files.locate path with
  | .error fault => .error ⟨fault, path⟩
  | .ok location =>
      match files.node? location with
      | some _ => .error ⟨.alreadyExists, path⟩
      | none => .ok (files.put location .directory)

/-- A directory that exists already will do. -/
def ensureDirectory (path : Path) : Except FileError FileSystem :=
  match files.createDirectory path with
  | .ok created => .ok created
  | .error error => if files.isDirectory path then .ok files else .error error

/-- Makes a directory, and where its parent is missing that one first, as long as there are not more
than `allowed` to be made. The names are given from the innermost outwards. -/
def ensureChain (anchor : Anchor) (allowed : Nat) : List Text → Change
  | [] => files.attempt (files.ensureDirectory ⟨anchor, []⟩)
  | name :: outer =>
      let path := ⟨anchor, (name :: outer).reverse⟩
      match allowed, files.ensureDirectory path with
      | 0, _ => { files, error? := some ⟨.tooDeep, path⟩ }
      | remaining + 1, .error ⟨.missing, _⟩ =>
          (ensureChain anchor remaining outer).andThen (·.ensureDirectory path)
      | _ + 1, result => files.attempt result

def ensureDirectories (path : Path) : Change :=
  files.ensureChain path.anchor maxNewDirectories path.names.reverse

/-- An existing file is replaced. -/
def write (path : Path) (content : Text) : Except FileError FileSystem :=
  match files.locate path with
  | .error fault => .error ⟨fault, path⟩
  | .ok location =>
      match files.node? location with
      | some .directory => .error ⟨.isDirectory, path⟩
      | _ => .ok (files.put location (.file content))

def writeBelow (path : Path) (content : Text) : Change :=
  (files.ensureDirectories path.parent).andThen (·.write path content)

/-- The files that are not empty, by their paths from the working directory. -/
def contents : List (Text × Text) :=
  files.entries.filterMap fun (location, node) =>
    match node, files.workingDirectory.isPrefixOf? location with
    | .file (first :: rest), some names => some (Path.slashSeparated names, first :: rest)
    | _, _ => none

end FileSystem

end WidgetBindings
