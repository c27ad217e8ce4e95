import WidgetBindings.Log.Logged
import WidgetBindings.Wrapper.Printer

namespace WidgetBindings

/-! Object definitions, one for each widget, and the module that holds them all.

Where something cannot be wrapped there is no value, and the log says why.
-/

def CType.tryMap (type : CType) : Logged (Option RustType) :=
  match type.rustType? with
  | some rust => pure (some rust)
  | none => ⟨none, [.noMapping type]⟩

def Param.tryArgument (param : Param) : Logged (Option Argument) := do
  let mapped ← param.type.tryMap
  pure (mapped.map fun rust => ⟨param.ident, rust⟩)

/-- An unsupported type is reported on its own before the function that uses it. -/
def Skip.events (func : Text) (skip : Skip) : List Event :=
  match skip with
  | .unsupported param => param.tryArgument.log ++ [.skippedFunction func skip]
  | _ => [.skippedFunction func skip]

namespace Func

def tryMethod (lib widget : Text) (func : Func) : Logged (Option Method) :=
  match func.method lib widget with
  | .ok method => pure (some method)
  | .error skip => ⟨none, skip.events func.name⟩

def tryWrapper (lib widget : Text) (func : Func) : Logged (Option Wrapper) :=
  if Name.withinWidget lib widget func.name = ("create" : Text) then
    pure (some (.constructor func.name))
  else
    Option.map .method <$> func.tryMethod lib widget

end Func

/-- A Rust type for a widget with the functions of its implementation block. -/
structure Definition where
  object : Text
  wrappers : List Wrapper
deriving DecidableEq, Repr

def Definition.text (definition : Definition) : Text :=
  "define_object!(" ++ definition.object ++ ");\n\n" ++
  "impl " ++ definition.object ++ " \x7b\n" ++
  ("\n" : Text).intercalate (definition.wrappers.map fun wrapper => Text.indent 1 wrapper.text) ++
  "\x7d\n"

/-- The base object of all widgets, whose type is written by hand. -/
def baseObject : Text := "obj"

namespace Widget

def isBase (widget : Widget) : Bool :=
  widget.name == baseObject

def define (lib : Text) (widget : Widget) : Logged Definition := do
  let wrappers ← widget.methods.mapM (Func.tryWrapper lib widget.name)
  let definition := ⟨Name.pascal widget.name, wrappers.filterMap id⟩
  Logged.emit (.wrapped definition.object definition.wrappers.length widget.methods.length)
  pure definition

def definition? (lib : Text) (widget : Widget) : Logged (Option Definition) :=
  if widget.isBase then pure none else some <$> widget.define lib

end Widget

/-- By code points; widgets of one name keep their order. -/
def sortedByName (widgets : List Widget) : List Widget :=
  widgets.mergeSort fun first second => Text.atMost first.name second.name

/-- The definition of a widget of a module, where skipping the base object is reported. -/
def moduleEntry (lib : Text) (widget : Widget) : Logged (Option Definition) := do
  let definition ← widget.definition? lib
  if definition.isNone then
    Logged.emit (.skippedWidget widget.name)
  pure definition

def definitions (lib : Text) (widgets : List Widget) : Logged (List Definition) := do
  let entries ← (sortedByName widgets).mapM (moduleEntry lib)
  let definitions := entries.filterMap id
  Logged.emit (.rendered definitions.length)
  pure definitions

def banner : Text := "// Generated by lvgl-codegen - DO NOT EDIT\n"

def moduleText (definitions : List Definition) : Text :=
  banner ++ "\n" ++ ("\n" : Text).intercalate (definitions.map Definition.text)

/-- The generated module of a list of widgets. -/
def generateModule (lib : Text) (widgets : List Widget) : Logged Text :=
  moduleText <$> definitions lib widgets

end WidgetBindings
