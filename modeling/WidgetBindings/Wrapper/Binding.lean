import WidgetBindings.Api.Basic
import WidgetBindings.Name
import WidgetBindings.Wrapper.Basic

namespace WidgetBindings

/-! The wrapper of a C function inside a widget, or the reason why there is none.

Argument types are found by their exact spelling, except that every spelling with `char *` at its
end is a string. Results cannot be wrapped, so only procedures become methods.
-/

def primitiveTypes : List (Text × RustType) :=
  [("uint16_t", .u16), ("int32_t", .i32), ("uint8_t", .u8), ("bool", .bool), ("_Bool", .bool)]

def CType.rustType? (type : CType) : Option RustType :=
  if type.isString then some .str else primitiveTypes.lookup type.spelling

def CType.passing (type : CType) : Passing :=
  if type.isString then .ownedCopy else .direct

theorem primitiveTypes_direct : ∀ entry ∈ primitiveTypes, entry.2.passing = .direct := by decide

theorem CType.passing_of_rustType? {type : CType} {rust : RustType}
    (mapped : type.rustType? = some rust) : type.passing = rust.passing := by
  unfold rustType? at mapped
  unfold passing
  by_cases string : type.isString
  · rw [if_pos string] at mapped ⊢
    cases mapped
    rfl
  · rw [if_neg string] at mapped ⊢
    obtain ⟨before, after, split, _⟩ := List.lookup_eq_some_iff.mp mapped
    exact (primitiveTypes_direct (type.spelling, rust) (by simp [split])).symm

def Param.ident (param : Param) : Text :=
  Name.escape param.name

/-- Why a function has no method. -/
inductive Skip
  | noReceiver
  | returnsValue (type : CType)
  | unsupported (param : Param)
deriving DecidableEq, Repr

def Param.argument (param : Param) : Except Skip Argument :=
  match param.type.rustType? with
  | some type => .ok ⟨param.ident, type⟩
  | none => .error (.unsupported param)

def CType.receiver (type : CType) : Receiver :=
  if type.isConst then .shared else .exclusive

namespace Func

/-- The method that calls the function on its first parameter. A missing receiver is reported
before a result, and a result before the first parameter of an unsupported type. -/
def method (lib widget : Text) (func : Func) : Except Skip Method :=
  match func.params, func.result with
  | [], _ => .error .noReceiver
  | _ :: _, some type => .error (.returnsValue type)
  | receiver :: params, none => do
      let arguments ← params.mapM Param.argument
      pure
        { name := Name.escape (Name.withinWidget lib widget func.name)
          receiver := receiver.type.receiver
          arguments := arguments
          callee := func.name }

/-- A function named `create` within its widget becomes the constructor, whatever its parameters
and its result. -/
def wrapper (lib widget : Text) (func : Func) : Except Skip Wrapper :=
  if Name.withinWidget lib widget func.name = ("create" : Text) then
    .ok (.constructor func.name)
  else
    .method <$> func.method lib widget

end Func

end WidgetBindings
