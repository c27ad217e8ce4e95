import WidgetBindings.Text.Basic

namespace WidgetBindings

/-! Safe Rust wrappers of C functions.

A wrapper is what the generated code says, before it is written out: which native function is
called, under which name, on which receiver and with which arguments.
-/

/-- The argument types that a wrapper can take. -/
inductive RustType
  | u16
  | i32
  | u8
  | bool
  | str
deriving DecidableEq, Repr

def RustType.text : RustType → Text
  | .u16 => "u16"
  | .i32 => "i32"
  | .u8 => "u8"
  | .bool => "bool"
  | .str => "&str"

/-- How an argument reaches the native function: as it is, or as a pointer into an owned copy that
ends in a zero byte. -/
inductive Passing
  | direct
  | ownedCopy
deriving DecidableEq, Repr

def RustType.passing : RustType → Passing
  | .str => .ownedCopy
  | _ => .direct

structure Argument where
  ident : Text
  type : RustType
deriving DecidableEq, Repr

inductive Receiver
  | shared
  | exclusive
deriving DecidableEq, Repr

structure Method where
  name : Text
  receiver : Receiver
  arguments : List Argument
  callee : Text
deriving DecidableEq, Repr

/-- A constructor always has the same shape, so the native function is all there is to know. -/
inductive Wrapper
  | constructor (callee : Text)
  | method (method : Method)
deriving DecidableEq, Repr

end WidgetBindings
