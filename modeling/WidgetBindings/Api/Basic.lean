import WidgetBindings.Text.Basic

namespace WidgetBindings

/-! The C interface of a widget library, as far as wrappers need it.

A type is known by its spelling alone: qualifiers, pointers and blanks count as they are written,
and no two spellings are identified.
-/

structure CType where
  spelling : Text
deriving DecidableEq, Repr

namespace CType

/-- Only a leading qualifier counts. -/
def isConst (type : CType) : Bool :=
  ("const " : Text).isPrefixOf type.spelling

theorem isConst_iff {type : CType} : type.isConst = true ↔ ("const " : Text) <+: type.spelling :=
  List.isPrefixOf_iff_prefix

def isString (type : CType) : Bool :=
  ("char *" : Text).isSuffixOf type.spelling

theorem isString_iff {type : CType} : type.isString = true ↔ ("char *" : Text) <:+ type.spelling :=
  List.isSuffixOf_iff_suffix

/-- The object handle may stand anywhere in the spelling, behind a qualifier or below pointers. -/
def mentionsHandle (type : CType) : Bool :=
  Text.holds "lv_obj_t" type.spelling

end CType

structure Param where
  name : Text
  type : CType
deriving DecidableEq, Repr

/-- A declared function; `result` is `none` for a procedure. -/
structure Func where
  name : Text
  params : List Param := []
  result : Option CType := none
deriving DecidableEq, Repr

/-- A function is called on a widget when its first parameter takes an object handle. -/
def Func.isMethod (func : Func) : Bool :=
  match func.params with
  | [] => false
  | receiver :: _ => receiver.type.mentionsHandle

structure Widget where
  name : Text
  methods : List Func := []
deriving DecidableEq, Repr

/-- A part of the interface, whatever its kind. -/
inductive Item
  | type (type : CType)
  | param (param : Param)
  | func (func : Func)
  | widget (widget : Widget)
deriving Repr

namespace Item

/-- Parts of one kind are compared field by field. Parts of different kinds are never equal. -/
def equal : Item → Item → Bool
  | .type first, .type second => first.spelling == second.spelling
  | .param first, .param second => first.name == second.name && first.type == second.type
  | .func first, .func second =>
      first.name == second.name && first.params == second.params && first.result == second.result
  | .widget first, .widget second => first.name == second.name && first.methods == second.methods
  | _, _ => false

theorem equal_iff {first second : Item} : first.equal second = true ↔ first = second := by
  rcases first with ⟨⟨_⟩⟩ | ⟨⟨_, _⟩⟩ | ⟨⟨_, _, _⟩⟩ | ⟨⟨_, _⟩⟩ <;>
    rcases second with ⟨⟨_⟩⟩ | ⟨⟨_, _⟩⟩ | ⟨⟨_, _, _⟩⟩ | ⟨⟨_, _⟩⟩ <;>
    simp [equal, and_assoc]

instance : DecidableEq Item := fun _ _ => decidable_of_iff _ equal_iff

end Item

end WidgetBindings
