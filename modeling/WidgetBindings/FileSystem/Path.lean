import WidgetBindings.Text.Basic

namespace WidgetBindings

/-! Paths as texts and as sequences of names.

Repeated slashes, a slash at the end and the name `.` carry no meaning and are dropped. The name
`..` is kept, because only the file system knows where it leads. Exactly two slashes at the start
are a root of their own.
-/

inductive Anchor
  | relative
  | root
  | doubleRoot
deriving DecidableEq, Repr

structure Path where
  anchor : Anchor
  names : List Text
deriving DecidableEq, Repr

def Anchor.ofText (text : Text) : Anchor :=
  match (text.takeWhile (· == '/')).length with
  | 0 => .relative
  | 2 => .doubleRoot
  | _ => .root

def Anchor.text : Anchor → Text
  | .relative => []
  | .root => "/"
  | .doubleRoot => "//"

namespace Path

def ofText (text : Text) : Path where
  anchor := Anchor.ofText text
  names := (text.splitOn '/').filter fun name => name ≠ [] ∧ name ≠ ['.']

def slashSeparated (names : List Text) : Text :=
  ("/" : Text).intercalate names

/-- The path of the working directory itself is written as a dot. -/
def text (path : Path) : Text :=
  match path.anchor, path.names with
  | .relative, [] => "."
  | anchor, names => anchor.text ++ slashSeparated names

def parent (path : Path) : Path :=
  { path with names := path.names.dropLast }

end Path

end WidgetBindings
