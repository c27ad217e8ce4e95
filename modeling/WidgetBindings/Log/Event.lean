import WidgetBindings.Source.Unit
import WidgetBindings.Wrapper.Binding

namespace WidgetBindings

/-! What the generator reports about a run. -/

inductive Level
  | debug
  | info
  | warning
  | critical
deriving DecidableEq, Repr

namespace Level

def name : Level → Text
  | .debug => "DEBUG"
  | .info => "INFO"
  | .warning => "WARNING"
  | .critical => "CRITICAL"

def rank : Level → Nat
  | .debug => 10
  | .info => 20
  | .warning => 30
  | .critical => 50

end Level

inductive Event
  | noMapping (type : CType)
  | skippedFunction (func : Text) (reason : Skip)
  | wrapped (object : Text) (done total : Nat)
  | skippedWidget (widget : Text)
  | rendered (widgets : Nat)
  | ignoredCreate (func : Text) (arity : Nat)
  | declaredAgain (func widget : Text)
  | extracted (widgets : Nat)
  | parsing (path : Text)
  | diagnosed (diagnostic : Diagnostic)
  | loaded (functions : Nat) (lib : Text)
  | aborted (reason : LoadError)
  | wrote (path : Text)
  | complete
deriving DecidableEq, Repr

def Skip.message : Skip → Text
  | .noReceiver => "no receiver argument"
  | .returnsValue type => "returns " ++ type.spelling
  | .unsupported param => "unsupported type '" ++ param.type.spelling ++ "' of '" ++ param.name ++ "'"

namespace Event

def level : Event → Level
  | .noMapping _ | .skippedFunction .. | .wrapped .. | .skippedWidget _ => .debug
  | .ignoredCreate .. | .declaredAgain .. => .debug
  | .rendered _ | .extracted _ | .parsing _ | .loaded .. | .wrote _ | .complete => .info
  | .diagnosed _ => .warning
  | .aborted _ => .critical

def message : Event → Text
  | .noMapping type => "No Rust mapping for C type '" ++ type.spelling ++ "'"
  | .skippedFunction func reason => "Skipping " ++ func ++ ": " ++ reason.message
  | .wrapped object done total =>
      object ++ ": wrapped " ++ Text.ofNat done ++ " of " ++ Text.ofNat total ++ " functions"
  | .skippedWidget widget => "Skipping widget '" ++ widget ++ "'"
  | .rendered widgets => "Rendered " ++ Text.ofNat widgets ++ " widgets."
  | .ignoredCreate func arity =>
      "Ignoring " ++ func ++ ": expected 2 args, got " ++ Text.ofNat arity
  | .declaredAgain func widget =>
      func ++ " is declared more than once, added to '" ++ widget ++ "' again"
  | .extracted widgets => "Extracted " ++ Text.ofNat widgets ++ " widgets."
  | .parsing path => "Parsing translation unit: " ++ path
  | .diagnosed diagnostic =>
      "clang: " ++ diagnostic.text ++ " (" ++ diagnostic.file.getD "None" ++ ":" ++
        Text.ofInt diagnostic.line ++ ")"
  | .loaded functions lib => "Loaded " ++ Text.ofNat functions ++ " '" ++ lib ++ "' functions."
  | .aborted reason => reason.message ++ ". Exiting."
  | .wrote path => "Wrote " ++ path
  | .complete => "Generation complete."

/-- The text of an event, on one line unless its message has more. A record of the log also has the
place in the generator's source, `[file:line]`, in front of the message; it is left out here. -/
def record (event : Event) : Text :=
  event.level.name ++ ": " ++ event.message

end Event

/-- Whether an event is shown when this is the least level to be shown. -/
def Level.shows (threshold : Level) (event : Event) : Bool :=
  threshold.rank ≤ event.level.rank

end WidgetBindings
