import WidgetBindings.Source.Loading
import WidgetBindings.Widget.Definition
import WidgetBindings.Widget.Extraction

namespace WidgetBindings

/-! The model of one library that a run works on, and the changes it admits.

Functions and widgets are kept side by side: changing the functions or the library's prefix leaves
the widgets as they are until they are extracted anew.
-/

structure Generator where
  lib : Text
  functions : List Func
  widgets : List Widget
deriving DecidableEq, Repr

namespace Generator

def ofFunctions (lib : Text) (separated : Bool) (functions : List Func) : Logged Generator := do
  let widgets ← extract lib separated functions
  pure ⟨lib, functions, widgets⟩

def ofUnit (lib : Text) (separated : Bool) (unit : SourceUnit) :
    Logged (Except LoadError Generator) := do
  match ← unit.functions lib with
  | .error reason => pure (.error reason)
  | .ok functions => .ok <$> ofFunctions lib separated functions

def load (request : Request) (lib : Text) (separated fileFound : Bool) (parser : CParser) :
    Logged (Loading Generator) := do
  let read ← request.readUnit fileFound parser
  read.advance (ofUnit lib separated)

def functionNames (generator : Generator) : List Text :=
  generator.functions.map Func.name

def widget? (generator : Generator) (name : Text) : Option Widget :=
  generator.widgets.find? (·.name == name)

def generate (generator : Generator) : Logged Text :=
  generateModule generator.lib generator.widgets

end Generator

inductive Edit
  | setLib (lib : Text)
  | addFunction (func : Func)
  | addMethod (widget : Text) (func : Func)
  | dropMethod (widget method : Text)
  | extract (separated : Bool)
deriving DecidableEq, Repr

namespace Generator

/-- Changes the widget that a lookup by name finds, if there is one. -/
def modifyWidget (generator : Generator) (name : Text) (change : Widget → Widget) : Generator :=
  { generator with
    widgets := generator.widgets.modify (generator.widgets.findIdx (·.name == name)) change }

def edit (generator : Generator) : Edit → Logged Generator
  | .setLib lib => pure { generator with lib }
  | .addFunction func => pure { generator with functions := generator.functions ++ [func] }
  | .addMethod widget func => pure (generator.modifyWidget widget (·.addMethod func))
  | .dropMethod widget method => pure (generator.modifyWidget widget (·.dropMethod method))
  | .extract separated => ofFunctions generator.lib separated generator.functions

end Generator

end WidgetBindings
