import WidgetBindings.CommandLine.Run
import WidgetBindings.Source.Listing

namespace WidgetBindings.Program

open CommandLine

/-! The command as a program.

The C parser runs before it: standard input holds the listing of the source unit that the
parser found in the input file. `run` decides everything. Here its surroundings are looked up
before it, and what it comes to is brought about behind it.
-/

/-- Only a directory can be entered. A file that holds no text counts as an empty one. -/
def nodeAt? (path : Path) : IO (Option Node) := do
  let path := String.ofList path.text
  try
    discard (IO.FS.realPath (path ++ "/."))
    pure (some .directory)
  catch _ =>
    try
      let content := (String.fromUTF8? (← IO.FS.readBinFile path)).getD ""
      pure (some (.file content.toList))
    catch _ => pure none

def look (files : FileSystem) (path : Path) : IO FileSystem := do
  match files.locate path with
  | .error _ => pure files
  | .ok location =>
      match files.node? location, ← nodeAt? path with
      | none, some node => pure (files.put location node)
      | _, _ => pure files

/-- Looks at every directory on the way, the outermost first, and at what they lead to. -/
def lookAlong (files : FileSystem) (front : Path) : List Text → IO FileSystem
  | [] => pure files
  | name :: rest => do
      let path := { front with names := front.names ++ [name] }
      lookAlong (← look files path) path rest

partial def readLines (input : IO.FS.Stream) : IO (List Text) := do
  let line ← input.getLine
  if line.isEmpty then pure []
  else do
    let later ← readLines input
    pure (line.toList.filter (· != '\n') :: later)

structure Surroundings where
  files : FileSystem
  unit : Except Text SourceUnit

/-- All that a run with these arguments may look at. Arguments that cannot be used need nothing. -/
def surroundings (arguments : List Text) : IO Surroundings := do
  let workingDirectory ← IO.FS.realPath "."
  let files : FileSystem := ⟨(Path.ofText workingDirectory.toString.toList).names, []⟩
  match parse arguments with
  | .error _ => pure ⟨files, .ok ⟨[], []⟩⟩
  | .ok options =>
      let paths := (options.input.map Path.ofText).toList ++ options.target?.toList
      let files ← paths.foldlM (fun files path => lookAlong files ⟨path.anchor, []⟩ path.names) files
      let lines ← readLines (← IO.getStdin)
      pure ⟨files, SourceUnit.ofListing lines⟩

/-- Makes what a run has added. The entries that came last stand in front. -/
def bringAbout (before after : FileSystem) : IO Unit := do
  for (location, node) in (after.entries.filter (· ∉ before.entries)).reverse do
    let path := String.ofList ('/' :: Path.slashSeparated location)
    match node with
    | .directory => IO.FS.createDir path
    | .file content => IO.FS.writeFile path (String.ofList content)

def leave : Ending → IO UInt32
  | .exit status => pure (UInt32.ofNat status)
  | .failed failure => do
      IO.eprintln (String.ofList failure.message)
      pure 1

def start (arguments : List Text) : IO UInt32 := do
  let given ← surroundings arguments
  let outcome := run arguments given.files fun _ => given.unit
  bringAbout given.files outcome.files
  IO.print (String.ofList outcome.stdout)
  IO.eprint (String.ofList outcome.stderr)
  leave outcome.ending

end WidgetBindings.Program

def main (arguments : List String) : IO UInt32 :=
  WidgetBindings.Program.start (arguments.map String.toList)
