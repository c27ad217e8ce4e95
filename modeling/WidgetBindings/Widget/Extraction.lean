import WidgetBindings.Log.Logged
import WidgetBindings.Name

namespace WidgetBindings

/-! The widgets of a library, gathered from its functions in one pass.

A widget is known from its create function, wherever that stands in the list. Each method goes to
every widget whose stem starts its name, behind the methods that the widget already has.
-/

/-- Only create functions of this arity, for the parent and for an object to copy, make widgets. -/
def createArity : Nat := 2

/-- The widgets that the create functions name, with repetitions. -/
def createdWidgets (lib : Text) : List Func → Logged (List Text)
  | [] => pure []
  | func :: rest =>
      match Name.created? lib func.name with
      | none => createdWidgets lib rest
      | some widget =>
          if func.params.length = createArity then do
            let later ← createdWidgets lib rest
            pure (widget :: later)
          else do
            Logged.emit (.ignoredCreate func.name func.params.length)
            createdWidgets lib rest

namespace Widget

def owns (lib : Text) (separated : Bool) (widget : Widget) (func : Func) : Bool :=
  (Name.stem lib widget.name separated).isPrefixOf func.name

def hasMethod (widget : Widget) (name : Text) : Bool :=
  widget.methods.any (·.name == name)

def addMethod (widget : Widget) (func : Func) : Widget :=
  { widget with methods := widget.methods ++ [func] }

def dropMethod (widget : Widget) (name : Text) : Widget :=
  { widget with methods := widget.methods.filter (·.name != name) }

/-- A second declaration of a method is kept beside the first one and reported. -/
def offer (lib : Text) (separated : Bool) (func : Func) (widget : Widget) : Logged Widget :=
  if widget.owns lib separated func then do
    if widget.hasMethod func.name then
      Logged.emit (.declaredAgain func.name widget.name)
    pure (widget.addMethod func)
  else pure widget

end Widget

def assign (lib : Text) (separated : Bool) (widgets : List Widget) (func : Func) :
    Logged (List Widget) :=
  if func.isMethod then widgets.mapM (Widget.offer lib separated func) else pure widgets

/-- Widgets come in the order of their first create functions, methods in the order of the list. -/
def extract (lib : Text) (separated : Bool) (functions : List Func) : Logged (List Widget) := do
  let names ← createdWidgets lib functions
  let widgets ← functions.foldlM (assign lib separated) (names.eraseDups.map fun name => { name })
  Logged.emit (.extracted widgets.length)
  pure widgets

end WidgetBindings
