import WidgetBindings.Text.Uppercase

namespace WidgetBindings.Name

/-! Names of C functions and what is made of them.

A function of the widget `btn` is named by the library's own prefix, the widget, and what the
function does, as in `lv_btn_set_text`. In Rust its method is named by the last part, and the type
of the widget by the widget in Pascal case.
-/

/-- What the names of a widget's functions start with. Without the separator the stem of `btn`
also starts the functions of `btnmatrix`. -/
def stem (lib widget : Text) (separated : Bool) : Text :=
  lib ++ widget ++ (if separated then ("_" : Text) else [])

/-- What is left of a function's name inside its widget. A function that the widget does not own
keeps its full name. -/
def withinWidget (lib widget func : Text) : Text :=
  ((stem lib widget true).isPrefixOf? func).getD func

/-- The widget that a function creates, judged by its name: the part without an underscore between
the library's prefix and `_create`, where a line feed may close the name. -/
def created? (lib func : Text) : Option Text :=
  match lib.isPrefixOf? func with
  | none => none
  | some rest =>
      let widget := rest.takeWhile (· != '_')
      let ending := rest.dropWhile (· != '_')
      if widget ≠ [] ∧ (ending = ("_create" : Text) ∨ ending = ("_create\n" : Text)) then
        some widget
      else none

/-! Most reserved words of the 2018 edition become raw identifiers. Four of them cannot be raw and
get an underscore behind instead. -/

def notRaw : List Text :=
  ["self", "Self", "super", "crate"]

/-- The strict and the reserved keywords. -/
def keywords : List Text :=
  List.map String.toList [
    "as", "break", "const", "continue", "crate", "else", "enum", "extern", "false", "fn", "for",
    "if", "impl", "in", "let", "loop", "match", "mod", "move", "mut", "pub", "ref", "return",
    "self", "Self", "static", "struct", "super", "trait", "true", "type", "unsafe", "use",
    "where", "while", "async", "await", "dyn", "abstract", "become", "box", "do", "final",
    "macro", "override", "priv", "typeof", "unsized", "virtual", "yield", "try"]

def escape (name : Text) : Text :=
  if name ∈ notRaw then name ++ "_"
  else if name ∈ keywords then "r#" ++ name
  else name

/-! In Pascal case the words between underscores are joined. -/

/-- Raises the first code point and leaves the others as they are. -/
def capitalize : Text → Text
  | [] => []
  | first :: rest => Text.uppercase first ++ rest

/-- Words without a letter, as around a leading or a double underscore, vanish. -/
def pascal (name : Text) : Text :=
  (name.splitOn '_').flatMap capitalize

end WidgetBindings.Name
