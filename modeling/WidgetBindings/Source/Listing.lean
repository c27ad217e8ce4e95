import WidgetBindings.Source.Unit

namespace WidgetBindings

/-! Source units as plain listings, for C parsers that run as programs of their own.

A line tells of one declaration or one diagnostic. Tabs separate its fields, and an empty field is
a missing one. A declaration has its kind, its linkage, its name and its result, and then the name
and the type of each parameter. A diagnostic has the kind `diagnostic`, its severity, its file, its
line and its text.
-/

def Linkage.ofText? (text : Text) : Option Linkage :=
  [("none".toList, Linkage.none), ("internal".toList, .internal),
    ("unique".toList, .uniqueExternal), ("external".toList, .external),
    ("invalid".toList, .invalid)].lookup text

/-- Names and types take turns; a name at the end has no type. -/
def paramsOfFields : List Text → List DeclaredParam
  | [] => []
  | [name] => [⟨present? (some name), none⟩]
  | name :: type :: rest => ⟨present? (some name), present? (some type)⟩ :: paramsOfFields rest

namespace SourceUnit

def addLine? (unit : SourceUnit) (line : Text) : Option SourceUnit :=
  match line.splitOn '\t' with
  | kind :: linkage :: name :: result :: params =>
      if kind = "diagnostic".toList then do
        let severity ← Text.toNat? linkage
        let number ← Text.toNat? result
        let text := ("\t" : Text).intercalate params
        pure { unit with
          diagnostics := unit.diagnostics ++ [⟨severity, text, present? (some name), number⟩] }
      else do
        let linkage ← Linkage.ofText? linkage
        let declaration : Declaration :=
          { isFunction := kind = "function".toList
            linkage
            name := present? (some name)
            result := present? (some result)
            params := paramsOfFields params }
        pure { unit with declarations := unit.declarations ++ [declaration] }
  | _ => none

/-- The unit that the lines list, or the first line that says nothing. -/
def ofListing (lines : List Text) : Except Text SourceUnit :=
  lines.foldlM (fun unit line =>
    match unit.addLine? line with
    | some longer => .ok longer
    | none => .error ("unreadable line '" ++ line ++ "'")) ⟨[], []⟩

end SourceUnit

end WidgetBindings
