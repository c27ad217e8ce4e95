import WidgetBindings.Proofs.Binding
import WidgetBindings.Proofs.Constructors
import WidgetBindings.Proofs.ReadingBack

namespace WidgetBindings

/-! The text of a method, line by line.

A parameter is written up to three times: where it is declared, where it is copied, and where it is
passed on. Each place looks at the type on its own, and all of them come to the same decision.
-/

/-- The parameter types that are taken over as they are, with their words in Rust. -/
def primitiveWords : List (Text × Text) :=
  [("uint16_t", "u16"), ("int32_t", "i32"), ("uint8_t", "u8"), ("bool", "bool"), ("_Bool", "bool")]

/-- What a method says about one parameter. -/
structure Mention where
  declaration : Text
  copies : List Text
  operand : Text

namespace Param

/-- Strings are copied and passed on as pointers to their copies, all else is passed on itself. -/
inductive MentionedAs (param : Param) : Mention → Prop
  | string (ends : ("char *" : Text) <:+ param.type.spelling) :
      MentionedAs param
        { declaration := Name.escape param.name ++ ": " ++ "&str"
          copies := ["    let " ++ Name.escape param.name ++ " = cstr_core::CString::new(" ++
            Name.escape param.name ++ ")?;"]
          operand := Name.escape param.name ++ ".as_ptr()" }
  | primitive {word : Text} (other : ¬ ("char *" : Text) <:+ param.type.spelling)
      (listed : (param.type.spelling, word) ∈ primitiveWords) :
      MentionedAs param
        { declaration := Name.escape param.name ++ ": " ++ word
          copies := []
          operand := Name.escape param.name }

end Param

theorem primitiveWords_eq :
    primitiveWords = primitiveTypes.map fun entry => (entry.1, entry.2.text) :=
  rfl

/-- A mapped type is the one of strings, or it comes from the table. -/
theorem CType.rustType?_cases {type : CType} {rust : RustType}
    (mapped : type.rustType? = some rust) :
    (("char *" : Text) <:+ type.spelling ∧ rust = .str) ∨
      (¬ ("char *" : Text) <:+ type.spelling ∧ (type.spelling, rust.text) ∈ primitiveWords ∧
        rust.passing = .direct) := by
  unfold rustType? at mapped
  by_cases ends : type.isString = true
  · rw [if_pos ends] at mapped
    exact .inl ⟨isString_iff.mp ends, (Option.some.inj mapped).symm⟩
  · rw [if_neg ends] at mapped
    obtain ⟨before, after, split, _⟩ := List.lookup_eq_some_iff.mp mapped
    have listed : (type.spelling, rust) ∈ primitiveTypes := by simp [split]
    refine .inr ⟨mt isString_iff.mpr ends, ?_, primitiveTypes_direct _ listed⟩
    rw [primitiveWords_eq]
    exact List.mem_map_of_mem listed

namespace Argument

/-- What a method says about the argument. -/
def mention (argument : Argument) : Mention where
  declaration := argument.declaration
  copies := argument.rows.map Row.line
  operand := argument.operand

theorem mentionedAs {param : Param} {argument : Argument}
    (found : param.argument = .ok argument) : param.MentionedAs argument.mention := by
  obtain ⟨mapped, named⟩ := Param.argument_eq_ok_iff.mp found
  obtain ⟨ident, rust⟩ := argument
  subst named
  rcases CType.rustType?_cases mapped with ⟨ends, rfl⟩ | ⟨other, listed, direct⟩
  · exact .string ends
  · have passed : mention ⟨Name.escape param.name, rust⟩ =
        ⟨Name.escape param.name ++ ": " ++ rust.text, [], Name.escape param.name⟩ := by
      simp only [mention, declaration, rows, operand, direct, Passing.operand, List.map_nil]
    rw [passed]
    exact .primitive other listed

end Argument

/-- The line with the name, the receiver and the declared parameters. -/
def openingLine (name receiver : Text) (mentions : List Mention) : Text :=
  "pub fn " ++ name ++ "(" ++
    (", " : Text).intercalate (receiver :: mentions.map Mention.declaration) ++
    ") -> crate::LvResult<()> \x7b"

/-- What the native function is called on: the receiver's handle and the operands. -/
def callOperands (mentions : List Mention) : List Text :=
  "self.core.raw()?.as_mut()" :: mentions.map Mention.operand

def callLine (callee : Text) (mentions : List Mention) : Text :=
  "        lvgl_sys::" ++ callee ++ "(" ++ (", " : Text).intercalate (callOperands mentions) ++ ");"

/-- The lines of a method with these mentions of its parameters. -/
def methodLines (name receiver callee : Text) (mentions : List Mention) : List Text :=
  openingLine name receiver mentions :: mentions.flatMap Mention.copies ++
    (["    unsafe \x7b", callLine callee mentions, "    \x7d", "    Ok(())", "\x7d"] : List Text)

theorem callLine_eq (callee : Text) (arguments : List Argument) :
    Row.line ⟨2, nativeCall callee
      ("self.core.raw()?.as_mut()" :: arguments.map Argument.operand) ++ ";"⟩ =
      callLine callee (arguments.map Argument.mention) := by
  have opening : Text.padding 2 ++ ("lvgl_sys::" : Text) = "        lvgl_sys::" := by decide
  have closing : (")" : Text) ++ (";" : Text) = ");" := by decide
  unfold callLine callOperands Row.line nativeCall commaSeparated
  rw [List.map_map, ← opening, ← closing]
  simp only [List.append_assoc]
  rfl

theorem Method.text_eq_lines {method : Method}
    (idents : ∀ argument ∈ method.arguments, Name.IsWord argument.ident) :
    method.text = Text.ofLines (methodLines method.name method.receiver.text method.callee
      (method.arguments.map Argument.mention)) := by
  have opening : Row.line ⟨0, method.signature⟩ =
      openingLine method.name method.receiver.text (method.arguments.map Argument.mention) := by
    unfold openingLine
    rw [List.map_map]
    rfl
  have copies : (method.arguments.flatMap Argument.rows).map Row.line =
      (method.arguments.map Argument.mention).flatMap Mention.copies := by
    rw [List.map_flatMap, List.flatMap_map]
    rfl
  have closing := congrArg (fun line : Text =>
    (["    unsafe \x7b", line, "    \x7d", "    Ok(())", "\x7d"] : List Text))
      (callLine_eq method.callee method.arguments)
  rw [text_eq_rows idents, Row.flatMap_text, rows, List.map_append, List.map_cons, opening, copies]
  exact congrArg (fun lines => Text.ofLines (_ ++ lines)) closing

theorem Receiver.text_receiver (type : CType) :
    type.receiver.text =
      if ("const " : Text) <+: type.spelling then ("&self" : Text) else "&mut self" := by
  unfold CType.receiver
  simp only [CType.isConst_iff]
  split <;> rfl

namespace Func

variable {lib widget : Text} {func : Func}

theorem tryWrapper_eq_none_iff
    (other : Name.withinWidget lib widget func.name ≠ ("create" : Text)) :
    (func.tryWrapper lib widget).value = none ↔
      func.params = [] ∨ func.result ≠ none ∨
        ∃ param ∈ func.params.tail, ¬ param.type.IsSupported := by
  have wrapped : (func.tryWrapper lib widget).value ≠ none ↔
      ∃ wrapper, func.wrapper lib widget = .ok wrapper := by
    simp only [tryWrapper_value, Option.ne_none_iff_exists', toOption_eq_some_iff]
  rw [← not_iff_not, ← ne_eq, wrapped, exists_wrapper_iff, or_iff_right other]
  push Not
  rfl

/-- A function that is no constructor is skipped exactly if it has no receiver, returns something or
takes an unsupported argument. Otherwise its text is made of the lines of a method. Every parameter
behind the receiver is mentioned in order, and the call takes as many operands as the function has
parameters. -/
theorem method_text_exact (identifiers : ∀ param ∈ func.params, Name.isIdentifier param.name = true)
    (other : Name.withinWidget lib widget func.name ≠ ("create" : Text)) :
    ((func.tryWrapper lib widget).value = none ↔
      func.params = [] ∨ func.result ≠ none ∨
        ∃ param ∈ func.params.tail, ¬ param.type.IsSupported) ∧
    ∀ text, func.Renders lib widget text →
      ∃ receiver params mentions, func.params = receiver :: params ∧
        List.Forall₂ Param.MentionedAs params mentions ∧
        (callOperands mentions).length = func.params.length ∧
        text = Text.ofLines (methodLines (Name.escape (Name.withinWidget lib widget func.name))
          (if ("const " : Text) <+: receiver.type.spelling then "&self" else "&mut self")
          func.name mentions) := by
  refine ⟨tryWrapper_eq_none_iff other, fun text renders => ?_⟩
  obtain ⟨wrapper, found, rfl⟩ := renders_iff.mp renders
  rcases wrapper_eq_ok_iff.mp found with ⟨create, -⟩ | ⟨-, binding, bound, rfl⟩
  · exact absurd create other
  · obtain ⟨receiver, params, arguments, split, -, mapped, rfl⟩ := method_eq_ok_iff.mp bound
    have mentioned : List.Forall₂ Param.MentionedAs params (arguments.map Argument.mention) :=
      List.forall₂_map_right_iff.mpr (mapped.imp fun _ _ done => Argument.mentionedAs done)
    have idents : ∀ argument ∈ arguments, Name.IsWord argument.ident := by
      intro argument member
      obtain ⟨param, listed, done⟩ := forall₂_exists_right mapped argument member
      rw [(Param.argument_eq_ok_iff.mp done).2]
      exact (Name.isWord_of_isIdentifier (identifiers param (by simp [split, listed]))).escape
    refine ⟨receiver, params, arguments.map Argument.mention, split, mentioned, ?_, ?_⟩
    · simp [callOperands, split, mapped.length_eq]
    · rw [← Receiver.text_receiver]
      exact Method.text_eq_lines idents

/-- A string is copied before the call, and a parameter named by a reserved word is escaped in both
places. -/
theorem method_text_exact_label :
    let func : Func :=
      { name := "lv_label_set_text"
        params := [⟨"label", ⟨"lv_obj_t *"⟩⟩, ⟨"text", ⟨"const char *"⟩⟩, ⟨"type", ⟨"uint8_t"⟩⟩] }
    (∀ param ∈ func.params, Name.isIdentifier param.name = true) ∧
      Name.withinWidget "lv_" "label" func.name ≠ ("create" : Text) ∧
      ∃ text mentions, func.Renders "lv_" "label" text ∧
        List.Forall₂ Param.MentionedAs func.params.tail mentions ∧
        text = Text.ofLines (methodLines "set_text" "&mut self" "lv_label_set_text" mentions) := by
  intro func
  have identifiers : ∀ param ∈ func.params, Name.isIdentifier param.name = true := by decide
  have other : Name.withinWidget "lv_" "label" func.name ≠ ("create" : Text) := by decide
  obtain ⟨skipped, written⟩ := method_text_exact identifiers other
  obtain ⟨wrapper, found⟩ := Option.ne_none_iff_exists'.mp (mt skipped.mp (by decide))
  have renders : func.Renders "lv_" "label" wrapper.text := by
    rw [Renders, found, Option.map_some]
  obtain ⟨receiver, params, mentions, split, mentioned, -, text⟩ := written _ renders
  cases split
  exact ⟨identifiers, other, wrapper.text, mentions, renders, mentioned, text⟩

end Func

end WidgetBindings
