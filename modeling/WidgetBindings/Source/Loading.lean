import WidgetBindings.FileSystem.Basic
import WidgetBindings.Log.Logged

namespace WidgetBindings

/-! Loading the functions of a library from its preprocessed C file. -/

structure Request where
  path : Text
  arguments : List Text := []
deriving DecidableEq, Repr

def Request.invocation (request : Request) : Invocation :=
  ⟨request.path, languageArguments ++ request.arguments⟩

/-- What loading comes to, and the calls of the parser on the way. -/
structure Loading (α : Type) where
  calls : List Invocation
  outcome : Except LoadError α

/-- Goes on with what has been loaded, unless loading has failed already. -/
def Loading.advance {α β : Type} (loading : Loading α)
    (next : α → Logged (Except LoadError β)) : Logged (Loading β) :=
  match loading.outcome with
  | .error reason => pure ⟨loading.calls, .error reason⟩
  | .ok loaded => (fun outcome => ⟨loading.calls, outcome⟩) <$> next loaded

def reportErrors (diagnostics : List Diagnostic) : Logged Unit :=
  ⟨(), (diagnostics.filter Diagnostic.isError).map .diagnosed⟩

/-- The parser is called once if the file is there, and not at all otherwise. A unit with errors
still has declarations, so its diagnostics are only reported. -/
def Request.readUnit (request : Request) (fileFound : Bool) (parser : CParser) :
    Logged (Loading SourceUnit) :=
  if fileFound then do
    Logged.emit (.parsing request.path)
    match parser request.invocation with
    | .error reason => pure ⟨[request.invocation], .error (.unparsable request.path reason)⟩
    | .ok unit => do
        reportErrors unit.diagnostics
        pure ⟨[request.invocation], .ok unit⟩
  else pure ⟨[], .error (.notFound request.path)⟩

def SourceUnit.functions (lib : Text) (unit : SourceUnit) :
    Logged (Except LoadError (List Func)) :=
  let found := scan lib unit.declarations
  match found.defect with
  | some defect => pure (.error (.defective defect))
  | none => do
      Logged.emit (.loaded found.functions.length lib)
      pure (.ok found.functions)

def Request.load (request : Request) (lib : Text) (fileFound : Bool) (parser : CParser) :
    Logged (Loading (List Func)) := do
  let read ← request.readUnit fileFound parser
  read.advance (SourceUnit.functions lib)

def FileSystem.load (files : FileSystem) (request : Request) (lib : Text) (parser : CParser) :
    Except FileError (Logged (Loading (List Func))) := do
  let fileFound ← files.isFile (Path.ofText request.path)
  pure (request.load lib fileFound parser)

end WidgetBindings
