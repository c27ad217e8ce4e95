import WidgetBindings.Text.Line
import WidgetBindings.Wrapper.Basic

namespace WidgetBindings

/-! Wrappers as Rust source. The lines of a wrapper start at the margin. -/

/-- The statement that has to come before the native call. The copy takes the argument's name, and
so stays alive until the call has returned. -/
def Passing.preparation (ident : Text) : Passing → Text
  | .direct => []
  | .ownedCopy => "let " ++ ident ++ " = cstr_core::CString::new(" ++ ident ++ ")?;\n"

def Passing.operand (ident : Text) : Passing → Text
  | .direct => ident
  | .ownedCopy => ident ++ ".as_ptr()"

namespace Argument

def declaration (argument : Argument) : Text :=
  argument.ident ++ ": " ++ argument.type.text

def preparation (argument : Argument) : Text :=
  argument.type.passing.preparation argument.ident

def operand (argument : Argument) : Text :=
  argument.type.passing.operand argument.ident

end Argument

def Receiver.text : Receiver → Text
  | .shared => "&self"
  | .exclusive => "&mut self"

def commaSeparated (parts : List Text) : Text :=
  (", " : Text).intercalate parts

def nativeCall (callee : Text) (operands : List Text) : Text :=
  "lvgl_sys::" ++ callee ++ "(" ++ commaSeparated operands ++ ")"

def Method.signature (method : Method) : Text :=
  "pub fn " ++ method.name ++ "(" ++
    commaSeparated (method.receiver.text :: method.arguments.map Argument.declaration) ++
    ") -> crate::LvResult<()> \x7b"

def Method.text (method : Method) : Text :=
  Text.line 0 method.signature ++
  method.arguments.flatMap (fun argument => Text.indent 1 argument.preparation) ++
  Text.line 1 "unsafe \x7b" ++
  Text.line 2 (nativeCall method.callee
    ("self.core.raw()?.as_mut()" :: method.arguments.map Argument.operand) ++ ";") ++
  Text.line 1 "\x7d" ++
  Text.line 1 "Ok(())" ++
  Text.line 0 "\x7d"

/-- Works for every parent that is a native object; the object to copy is always null. -/
def constructorText (callee : Text) : Text :=
  Text.line 0 "pub fn new<C>(parent: &mut C) -> crate::LvResult<Self>" ++
  Text.line 0 "where" ++
  Text.line 1 "C: crate::NativeObject," ++
  Text.line 0 "\x7b" ++
  Text.line 1 "unsafe \x7b" ++
  Text.line 2 ("let ptr = " ++
    nativeCall callee ["parent.raw()?.as_mut()", "core::ptr::null_mut()"] ++ ";") ++
  Text.line 2 "let raw = core::ptr::NonNull::new(ptr)?;" ++
  Text.line 2 "let core = <crate::Obj as crate::Widget>::from_raw(raw);" ++
  Text.line 2 "Ok(Self \x7b core \x7d)" ++
  Text.line 1 "\x7d" ++
  Text.line 0 "\x7d"

def Wrapper.text : Wrapper → Text
  | .constructor callee => constructorText callee
  | .method binding => binding.text

end WidgetBindings
