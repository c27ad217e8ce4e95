import WidgetBindings.CommandLine.Options
import WidgetBindings.Generator

namespace WidgetBindings.CommandLine

/-! A run of the command, from its arguments to everything that can be seen of it afterwards.

The file system and the C parser are given as values. What a run does to files is in the file
system of its outcome, and what it asks of the parser in the list of calls.
-/

namespace Options

/-- A value of the parser's own options. Where nothing was given the empty list stands for it. -/
def parserValue (given : Given) : Text :=
  given.getD "[]"

def parserArguments (options : Options) : List Text :=
  options.includeDirs.map ("-I".toList ++ parserValue ·) ++
    options.defines.map ("-D".toList ++ parserValue ·)

/-- No output file is meant by an empty name. -/
def target? (options : Options) : Option Path :=
  match options.output with
  | none | some [] => none
  | some (first :: rest) => some (Path.ofText (first :: rest))

/-- The least level that is shown. -/
def threshold (options : Options) : Level :=
  if options.debug then .debug else .info

end Options

/-- What a run makes from a generator: a listing for the terminal, or generated code. -/
inductive Product
  | listing (text : Text)
  | code (text : Text)
deriving DecidableEq, Repr

/-- One name to a line. A library without functions is listed as an empty line. -/
def functionListing (generator : Generator) : Text :=
  ("\n" : Text).intercalate generator.functionNames ++ "\n"

def widgetLine (widget : Widget) : Text :=
  widget.name ++ " (" ++ Text.ofNat widget.methods.length ++ " functions)\n"

def widgetListing (generator : Generator) : Text :=
  (sortedByName generator.widgets).flatMap widgetLine

def Options.product (options : Options) (generator : Generator) : Logged Product :=
  if options.listFunctions then pure (.listing (functionListing generator))
  else if options.listWidgets then pure (.listing (widgetListing generator))
  else Product.code <$> generator.generate

/-- Why a run breaks off without an exit status of its own: a file cannot be reached, or a setting
that needs a text was given nothing. A missing prefix is noticed where it is first needed, which is
at the first exported function or behind the last declaration. -/
inductive Failure
  | file (error : FileError)
  | noInput
  | noLib (exported : Bool)
deriving DecidableEq, Repr

def Failure.message : Failure → Text
  | .file error => error.message
  | .noInput => "expected str, bytes or os.PathLike object, not list"
  | .noLib true => "startswith first arg must be str or a tuple of str, not list"
  | .noLib false => "decoding to str: need a bytes-like object, list found"

inductive Ending
  | exit (status : Nat)
  | failed (failure : Failure)
deriving DecidableEq, Repr

structure Outcome where
  ending : Ending
  stdout : Text := []
  /-- Why the command line could not be used. -/
  complaint : Text := []
  /-- The events that were shown. -/
  log : List Event := []
  files : FileSystem
  calls : List Invocation := []
deriving DecidableEq, Repr

def Outcome.stderr (outcome : Outcome) : Text :=
  outcome.complaint ++ outcome.log.flatMap (fun event => (event.record ++ "\n" : Text))

/-- Puts code where it belongs. Code that cannot be written goes nowhere else, though directories for
it may have been made. -/
def deliver (options : Options) (files : FileSystem) (code : Text) : Logged Outcome :=
  match options.target? with
  | none => do
      Logged.emit .complete
      pure { ending := .exit 0, stdout := code, files }
  | some path =>
      let change := files.writeBelow path code
      match change.error? with
      | some error => pure { ending := .failed (.file error), files := change.files }
      | none => do
          Logged.emit (.wrote path.text)
          Logged.emit .complete
          pure { ending := .exit 0, files := change.files }

def abort (files : FileSystem) (reason : LoadError) : Logged Outcome := do
  Logged.emit (.aborted reason)
  pure { ending := .exit 1, files }

/-- The outcome of a generator that loading came to, or of the reason why there is none. -/
def conclude (options : Options) (files : FileSystem) :
    Except LoadError Generator → Logged Outcome
  | .error reason => abort files reason
  | .ok generator => do
      match ← options.product generator with
      | .listing text => pure { ending := .exit 0, stdout := text, files }
      | .code text => deliver options files text

def concludeUnit (options : Options) (files : FileSystem) :
    Except LoadError SourceUnit → Logged Outcome
  | .error reason => abort files reason
  | .ok unit =>
      match options.lib with
      | none => do
          let exported := unit.declarations.any (·.exported?.isSome)
          if !exported then
            Logged.emit (.loaded 0 (Options.parserValue none))
          pure { ending := .failed (.noLib exported), files }
      | some lib => do
          let generator ← Generator.ofUnit lib options.separated unit
          conclude options files generator

def Options.run (options : Options) (files : FileSystem) (parser : CParser) : Logged Outcome :=
  match options.input with
  | none => pure { ending := .failed .noInput, files }
  | some path =>
      match files.isFile (Path.ofText path) with
      | .error error => pure { ending := .failed (.file error), files }
      | .ok fileFound => do
          let read ← Request.readUnit ⟨path, options.parserArguments⟩ fileFound parser
          let outcome ← concludeUnit options files read.outcome
          pure { outcome with calls := read.calls }

/-- A run of the whole command. -/
def run (arguments : List Text) (files : FileSystem) (parser : CParser) : Outcome :=
  match parse arguments with
  | .error .help => { ending := .exit 0, stdout := help, files }
  | .error (.misuse error) => { ending := .exit 2, complaint := error.report, files }
  | .ok options =>
      let result := options.run files parser
      { result.value with log := result.log.filter options.threshold.shows }

end WidgetBindings.CommandLine
