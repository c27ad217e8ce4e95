import WidgetBindings.Proofs.Delimited
import WidgetBindings.Proofs.Identifier
import WidgetBindings.Proofs.Indentation
import WidgetBindings.Wrapper.Printer

namespace WidgetBindings

/-! Wrappers as rows.

A row is a line of code with its indentation apart. The text of a wrapper is the text of its rows,
and to indent it is to raise the level of every row. This holds for names that are words: a name
with a line end would start a line of its own.
-/

namespace Text

/-- The visible characters of ASCII and the space. -/
def isCodeChar (char : Char) : Bool :=
  ' ' ≤ char && char ≤ '~'

def IsCode (text : Text) : Prop :=
  ∀ char ∈ text, isCodeChar char = true

instance (text : Text) : Decidable (IsCode text) :=
  decidable_of_iff (text.all isCodeChar = true) List.all_eq_true

theorem IsCode.append {left right : Text} (leftCode : IsCode left) (rightCode : IsCode right) :
    IsCode (left ++ right) := by
  intro char member
  rcases List.mem_append.mp member with member | member
  · exact leftCode char member
  · exact rightCode char member

theorem IsCode.commaSeparated {parts : List Text} (code : ∀ part ∈ parts, IsCode part) :
    IsCode (commaSeparated parts) := by
  intro char member
  rcases mem_intercalate member with inSep | ⟨part, listed, inside⟩
  · exact (by decide : IsCode ", ") char inSep
  · exact code part listed char inside

theorem isCode_of_isWord {text : Text} (word : Name.IsWord text) : IsCode text := by
  intro char member
  have wordChar := word char member
  have below := Name.lt_of_isWordChar wordChar
  revert wordChar
  exact charCases char below (by decide)

theorem isLineEnd_of_isCodeChar {char : Char} (code : isCodeChar char = true) :
    isLineEnd char = false := by
  have below : char.toNat < 127 := by
    simp only [isCodeChar, Bool.and_eq_true, decide_eq_true_eq, Char.le_def,
      UInt32.le_iff_toNat_le] at code
    exact Nat.lt_succ_of_le code.2
  revert code
  exact charCases char below (by decide)

theorem isCode_padding (level : Nat) : IsCode (padding level) := by
  intro char member
  rw [List.eq_of_mem_replicate member]
  decide

theorem isBlank_of_head? {text : Text} {char : Char} (starts : text.head? = some char)
    (visible : isBlankChar char = false) : isBlank text = false :=
  List.all_eq_false.mpr ⟨char, List.mem_of_mem_head? starts, by simp [visible]⟩

end Text

structure Row where
  level : Nat
  content : Text

namespace Row

def text (row : Row) : Text :=
  Text.line row.level row.content

def raise (amount : Nat) (row : Row) : Row :=
  { row with level := amount + row.level }

/-- One line that is not blank, so that indentation reaches it. -/
structure IsPlain (row : Row) : Prop where
  code : Text.IsCode row.content
  visible : Text.isBlank row.content = false

theorem indent_text_append {row : Row} (plain : row.IsPlain) (level : Nat) (rest : Text) :
    Text.indent level (row.text ++ rest) = (row.raise level).text ++ Text.indent level rest := by
  have code := (Text.isCode_padding row.level).append plain.code
  have split : Text.lines (row.text ++ rest) = row.text :: Text.lines rest := by
    have inner (char : Char) (member : char ∈ Text.padding row.level ++ row.content) :=
      Text.isLineEnd_of_isCodeChar (code char member)
    simpa [text, Text.line] using Text.lines_append_newline inner rest
  have visible : Text.isBlank row.text = false := by
    simp [text, Text.line, Text.isBlank_append, plain.visible]
  have padded : Text.indentLine level row.text = (row.raise level).text := by
    rw [Text.indentLine, visible]
    simp [text, Text.line, raise, ← Text.padding_add]
  rw [Text.indent, split, List.flatMap_cons, padded, Text.indent]

theorem indent_text {rows : List Row} (plain : ∀ row ∈ rows, row.IsPlain) (level : Nat) :
    Text.indent level (rows.flatMap text) = (rows.map (raise level)).flatMap text := by
  induction rows with
  | nil => rfl
  | cons row rest ih =>
      have later := ih fun other member => plain other (List.mem_cons_of_mem _ member)
      rw [List.flatMap_cons, indent_text_append (plain row List.mem_cons_self), later]
      rfl

end Row

namespace Argument

def copying (argument : Argument) : Text :=
  "let " ++ argument.ident ++ " = cstr_core::CString::new(" ++ argument.ident ++ ")?;"

/-- The row that makes the copy, where one is needed. -/
def rows (argument : Argument) : List Row :=
  match argument.type.passing with
  | .direct => []
  | .ownedCopy => [⟨1, argument.copying⟩]

end Argument

def Method.rows (method : Method) : List Row :=
  ⟨0, method.signature⟩ :: method.arguments.flatMap Argument.rows ++
    [⟨1, "unsafe \x7b"⟩,
      ⟨2, nativeCall method.callee
        ("self.core.raw()?.as_mut()" :: method.arguments.map Argument.operand) ++ ";"⟩,
      ⟨1, "\x7d"⟩, ⟨1, "Ok(())"⟩, ⟨0, "\x7d"⟩]

def constructorRows (callee : Text) : List Row :=
  [⟨0, "pub fn new<C>(parent: &mut C) -> crate::LvResult<Self>"⟩, ⟨0, "where"⟩,
    ⟨1, "C: crate::NativeObject,"⟩, ⟨0, "\x7b"⟩, ⟨1, "unsafe \x7b"⟩,
    ⟨2, "let ptr = " ++
      nativeCall callee ["parent.raw()?.as_mut()", "core::ptr::null_mut()"] ++ ";"⟩,
    ⟨2, "let raw = core::ptr::NonNull::new(ptr)?;"⟩,
    ⟨2, "let core = <crate::Obj as crate::Widget>::from_raw(raw);"⟩,
    ⟨2, "Ok(Self \x7b core \x7d)"⟩, ⟨1, "\x7d"⟩, ⟨0, "\x7d"⟩]

/-- All names of a method are words. -/
structure Method.IsPlain (method : Method) : Prop where
  name : Name.IsWord method.name
  callee : Name.IsWord method.callee
  idents : ∀ argument ∈ method.arguments, Name.IsWord argument.ident

namespace Wrapper

def callee : Wrapper → Text
  | .constructor callee => callee
  | .method binding => binding.callee

def rows : Wrapper → List Row
  | .constructor callee => constructorRows callee
  | .method binding => binding.rows

def IsPlain : Wrapper → Prop
  | .constructor callee => Name.IsWord callee
  | .method binding => binding.IsPlain

end Wrapper

theorem Receiver.isCode_text (receiver : Receiver) : Text.IsCode receiver.text := by
  cases receiver <;> decide

theorem RustType.isCode_text (type : RustType) : Text.IsCode type.text := by
  cases type <;> decide

namespace Argument

variable {argument : Argument}

theorem copying_plain (word : Name.IsWord argument.ident) (level : Nat) :
    Row.IsPlain ⟨level, argument.copying⟩ := by
  have code := Text.isCode_of_isWord word
  refine ⟨?_, Text.isBlank_of_head? rfl (by decide : Text.isBlankChar 'l' = false)⟩
  have binder := (by decide : Text.IsCode "let ").append code
  have opened := binder.append (by decide : Text.IsCode " = cstr_core::CString::new(")
  exact (opened.append code).append (by decide : Text.IsCode ")?;")

theorem rows_plain (word : Name.IsWord argument.ident) : ∀ row ∈ argument.rows, row.IsPlain := by
  unfold rows
  cases argument.type.passing with
  | direct => simp
  | ownedCopy => simpa using copying_plain word 1

theorem indent_preparation (word : Name.IsWord argument.ident) :
    Text.indent 1 argument.preparation = argument.rows.flatMap Row.text := by
  unfold rows preparation
  cases argument.type.passing with
  | direct => rfl
  | ownedCopy =>
      have statement : Passing.ownedCopy.preparation argument.ident =
          (Row.text ⟨0, argument.copying⟩) ++ [] := by
        unfold Passing.preparation Row.text Text.line copying
        simp only [Text.padding, Nat.mul_zero, List.replicate_zero, List.nil_append,
          List.append_nil, List.append_assoc]
        rfl
      rw [statement, Row.indent_text_append (copying_plain word 0)]
      simp [Row.raise, Text.indent, Text.lines]

theorem isCode_declaration (word : Name.IsWord argument.ident) :
    Text.IsCode argument.declaration := by
  have named := (Text.isCode_of_isWord word).append (by decide : Text.IsCode ": ")
  exact named.append argument.type.isCode_text

/-- A declaration holds no punctuation but its own. -/
theorem notMem_declaration {char : Char} (word : Name.IsWord argument.ident)
    (foreign : Name.isWordChar char = false) (outside : char ∉ (": &" : Text)) :
    char ∉ argument.declaration := by
  have type : argument.type.text.all fun inside =>
      Name.isWordChar inside || (": &" : Text).contains inside := by
    cases argument.type <;> decide
  have separator : (": " : Text) ⊆ (": &" : Text) := by decide
  refine List.not_mem_append (List.not_mem_append (word.notMem foreign) ?_) ?_
  · exact fun member => outside (separator member)
  · exact Name.notMem_of_all type foreign outside

theorem isCode_operand (word : Name.IsWord argument.ident) : Text.IsCode argument.operand := by
  have code := Text.isCode_of_isWord word
  unfold operand Passing.operand
  cases argument.type.passing with
  | direct => exact code
  | ownedCopy => exact code.append (by decide : Text.IsCode ".as_ptr()")

end Argument

theorem isCode_nativeCall {callee : Text} {operands : List Text} (word : Name.IsWord callee)
    (code : ∀ operand ∈ operands, Text.IsCode operand) :
    Text.IsCode (nativeCall callee operands) := by
  have called := (by decide : Text.IsCode "lvgl_sys::").append (Text.isCode_of_isWord word)
  have opened := called.append (by decide : Text.IsCode "(")
  exact (opened.append (Text.IsCode.commaSeparated code)).append (by decide : Text.IsCode ")")

namespace Method

variable {method : Method}

theorem isCode_signature (plain : method.IsPlain) : Text.IsCode method.signature := by
  have parts : ∀ part ∈ method.receiver.text :: method.arguments.map Argument.declaration,
      Text.IsCode part := by
    intro part member
    rcases List.mem_cons.mp member with rfl | member
    · exact method.receiver.isCode_text
    · obtain ⟨argument, listed, rfl⟩ := List.mem_map.mp member
      exact Argument.isCode_declaration (plain.idents argument listed)
  have named := (by decide : Text.IsCode "pub fn ").append (Text.isCode_of_isWord plain.name)
  have opened := named.append (by decide : Text.IsCode "(")
  exact (opened.append (Text.IsCode.commaSeparated parts)).append (by decide)

theorem isCode_call (plain : method.IsPlain) :
    Text.IsCode (nativeCall method.callee
      ("self.core.raw()?.as_mut()" :: method.arguments.map Argument.operand)) := by
  apply isCode_nativeCall plain.callee
  intro operand member
  rcases List.mem_cons.mp member with rfl | member
  · decide
  · obtain ⟨argument, listed, rfl⟩ := List.mem_map.mp member
    exact Argument.isCode_operand (plain.idents argument listed)

theorem rows_plain (plain : method.IsPlain) : ∀ row ∈ method.rows, row.IsPlain := by
  intro row member
  simp only [rows, List.cons_append, List.mem_cons, List.mem_append, List.mem_flatMap,
    List.not_mem_nil, or_false] at member
  rcases member with rfl | ⟨argument, listed, inside⟩ | rfl | rfl | rfl | rfl | rfl
  · exact ⟨isCode_signature plain,
      Text.isBlank_of_head? rfl (by decide : Text.isBlankChar 'p' = false)⟩
  · exact Argument.rows_plain (plain.idents argument listed) row inside
  · exact ⟨by decide, by decide⟩
  · exact ⟨(isCode_call plain).append (by decide),
      Text.isBlank_of_head? rfl (by decide : Text.isBlankChar 'l' = false)⟩
  · exact ⟨by decide, by decide⟩
  · exact ⟨by decide, by decide⟩
  · exact ⟨by decide, by decide⟩

/-- Only the lines that copy arguments are indented on their own, so only idents have to be words. -/
theorem text_eq_rows (idents : ∀ argument ∈ method.arguments, Name.IsWord argument.ident) :
    method.text = method.rows.flatMap Row.text := by
  have preparations :
      method.arguments.flatMap (fun argument => Text.indent 1 argument.preparation) =
        (method.arguments.flatMap Argument.rows).flatMap Row.text := by
    rw [List.flatMap_assoc]
    exact List.flatMap_congr fun argument listed =>
      Argument.indent_preparation (idents argument listed)
  simp only [text, rows, preparations, Row.text, List.flatMap_cons, List.flatMap_append,
    List.flatMap_nil, List.cons_append, List.append_assoc, List.append_nil]

end Method

namespace Wrapper

theorem rows_plain {wrapper : Wrapper} (plain : wrapper.IsPlain) :
    ∀ row ∈ wrapper.rows, row.IsPlain := by
  cases wrapper with
  | method binding => exact Method.rows_plain plain
  | constructor callee =>
      have operands : ∀ operand ∈ (["parent.raw()?.as_mut()", "core::ptr::null_mut()"] : List Text),
          Text.IsCode operand := by decide
      have call : Row.IsPlain ⟨2, "let ptr = " ++ nativeCall callee
          ["parent.raw()?.as_mut()", "core::ptr::null_mut()"] ++ ";"⟩ :=
        ⟨((by decide : Text.IsCode "let ptr = ").append
            (isCode_nativeCall plain operands)).append (by decide),
          Text.isBlank_of_head? rfl (by decide : Text.isBlankChar 'l' = false)⟩
      simp only [rows, constructorRows, List.forall_mem_cons]
      refine ⟨⟨by decide, by decide⟩, ⟨by decide, by decide⟩, ⟨by decide, by decide⟩,
        ⟨by decide, by decide⟩, ⟨by decide, by decide⟩, call, ⟨by decide, by decide⟩,
        ⟨by decide, by decide⟩, ⟨by decide, by decide⟩, ⟨by decide, by decide⟩,
        ⟨by decide, by decide⟩, by simp⟩

theorem text_eq_rows {wrapper : Wrapper} (plain : wrapper.IsPlain) :
    wrapper.text = wrapper.rows.flatMap Row.text := by
  cases wrapper with
  | method binding => exact Method.text_eq_rows plain.idents
  | constructor callee =>
      simp only [text, constructorText, rows, constructorRows, Row.text, List.flatMap_cons,
        List.flatMap_nil, List.append_assoc, List.append_nil]

theorem indent_text {wrapper : Wrapper} (plain : wrapper.IsPlain) (level : Nat) :
    Text.indent level wrapper.text = (wrapper.rows.map (Row.raise level)).flatMap Row.text := by
  rw [text_eq_rows plain, Row.indent_text (rows_plain plain)]

end Wrapper

end WidgetBindings
