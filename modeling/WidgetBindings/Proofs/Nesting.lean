import WidgetBindings.Proofs.ReadingBack
import WidgetBindings.Proofs.Sessions

namespace WidgetBindings

/-! How the brackets of generated code are nested.

A reader keeps the open brackets on a stack. What a module is put together from either leaves the
stack as it was, or opens a brace that the same wrapper or definition closes again. Names are words
and hold no brackets, and the spelling of a C type is never written.
-/

inductive Bracket
  | round
  | curly
deriving DecidableEq, Repr

namespace Bracket

/-- Only the innermost open bracket can be closed. -/
def close (bracket : Bracket) : List Bracket → Option (List Bracket)
  | [] => none
  | innermost :: outer => if innermost = bracket then some outer else none

/-- The open brackets behind a character, the innermost first. -/
def read (opened : List Bracket) : Char → Option (List Bracket)
  | '(' => some (.round :: opened)
  | '\x7b' => some (.curly :: opened)
  | ')' => close .round opened
  | '\x7d' => close .curly opened
  | _ => some opened

theorem close_append {bracket : Bracket} {opened behind : List Bracket}
    (closed : close bracket opened = some behind) (outer : List Bracket) :
    close bracket (opened ++ outer) = some (behind ++ outer) := by
  cases opened with
  | nil => cases closed
  | cons innermost rest =>
      simp only [close, Option.ite_none_right_eq_some, Option.some.injEq] at closed
      obtain ⟨same, rfl⟩ := closed
      exact if_pos same

/-- Brackets further out play no part as long as enough are open inside them. -/
theorem read_append {opened behind : List Bracket} {char : Char}
    (found : read opened char = some behind) (outer : List Bracket) :
    read (opened ++ outer) char = some (behind ++ outer) := by
  unfold read at found ⊢
  split at found
  · cases found; rfl
  · cases found; rfl
  · exact close_append found outer
  · exact close_append found outer
  · cases found; rfl

theorem read_of_notMem {char : Char} (other : char ∉ ("()\x7b\x7d" : Text))
    (opened : List Bracket) : read opened char = some opened := by
  unfold read
  split
  · exact absurd (by decide) other
  · exact absurd (by decide) other
  · exact absurd (by decide) other
  · exact absurd (by decide) other
  · rfl

end Bracket

namespace Text

/-- The open brackets behind a text, or nothing if one of its brackets closes another than the
innermost open one. -/
def nesting (opened : List Bracket) (text : Text) : Option (List Bracket) :=
  text.foldlM Bracket.read opened

def IsBalanced (text : Text) : Prop :=
  nesting [] text = some []

instance (text : Text) : Decidable (IsBalanced text) :=
  inferInstanceAs (Decidable (_ = _))

variable {opened behind : List Bracket} {first second text : Text}

theorem nesting_append (opened : List Bracket) (first second : Text) :
    nesting opened (first ++ second) = (nesting opened first).bind (nesting · second) :=
  List.foldlM_append

theorem nesting_cons (opened : List Bracket) (char : Char) (rest : Text) :
    nesting opened (char :: rest) = (Bracket.read opened char).bind (nesting · rest) :=
  List.foldlM_cons

theorem nesting_append_of_eq_some {middle : List Bracket}
    (front : nesting opened first = some middle) (back : nesting middle second = some behind) :
    nesting opened (first ++ second) = some behind := by
  rw [nesting_append, front, Option.bind_some, back]

theorem nesting_frame (found : nesting opened text = some behind) (outer : List Bracket) :
    nesting (opened ++ outer) text = some (behind ++ outer) := by
  induction text generalizing opened with
  | nil =>
      cases found
      rfl
  | cons char rest ih =>
      rw [nesting_cons, Option.bind_eq_some_iff] at found
      obtain ⟨next, step, later⟩ := found
      rw [nesting_cons, Bracket.read_append step, Option.bind_some, ih later]

namespace IsBalanced

/-- What is open in front of a balanced text is open behind it. -/
theorem nesting_eq (balanced : IsBalanced text) (opened : List Bracket) :
    nesting opened text = some opened :=
  nesting_frame balanced opened

theorem nesting_behind {middle : List Bracket} (balanced : IsBalanced second)
    (front : nesting opened first = some middle) : nesting opened (first ++ second) = some middle :=
  nesting_append_of_eq_some front (balanced.nesting_eq middle)

/-- Inside a balanced text nothing is closed that was open in front of it. -/
theorem nesting_prefix (balanced : IsBalanced text) (opened : List Bracket) {inner : Text}
    (starts : inner <+: text) : ∃ within, nesting opened inner = some (within ++ opened) := by
  obtain ⟨rest, rfl⟩ := starts
  rw [IsBalanced, nesting_append, Option.bind_eq_some_iff] at balanced
  obtain ⟨within, found, -⟩ := balanced
  exact ⟨within, nesting_frame found opened⟩

theorem append (firstBalanced : IsBalanced first) (secondBalanced : IsBalanced second) :
    IsBalanced (first ++ second) := by
  rw [IsBalanced, nesting_append, firstBalanced.nesting_eq, Option.bind_some]
  exact secondBalanced

theorem of_forall_notMem (plain : ∀ char ∈ text, char ∉ ("()\x7b\x7d" : Text)) :
    IsBalanced text := by
  induction text with
  | nil => rfl
  | cons char rest ih =>
      obtain ⟨head, later⟩ := List.forall_mem_cons.mp plain
      rw [IsBalanced, nesting_cons, Bracket.read_of_notMem head, Option.bind_some]
      exact ih later

theorem of_isWord (word : Name.IsWord text) : IsBalanced text := by
  refine of_forall_notMem fun char member bracket => ?_
  have foreign : ∀ bracket ∈ ("()\x7b\x7d" : Text), Name.isWordChar bracket = false := by
    simp only [String.reduceToList, List.forall_mem_cons]
    exact ⟨by decide, by decide, by decide, by decide, nofun⟩
  exact word.notMem (foreign char bracket) member

theorem intercalate {between : Text} {parts : List Text} (betweenBalanced : IsBalanced between)
    (balanced : ∀ part ∈ parts, IsBalanced part) : IsBalanced (between.intercalate parts) := by
  induction parts with
  | nil => rfl
  | cons part parts ih =>
      obtain ⟨head, later⟩ := List.forall_mem_cons.mp balanced
      cases parts with
      | nil =>
          rw [List.intercalate_singleton]
          exact head
      | cons next others =>
          rw [List.intercalate_cons_cons]
          exact (head.append betweenBalanced).append (ih later)

theorem flatMap {α : Type} {items : List α} {write : α → Text}
    (balanced : ∀ item ∈ items, IsBalanced (write item)) : IsBalanced (items.flatMap write) := by
  induction items with
  | nil => rfl
  | cons item items ih =>
      obtain ⟨head, later⟩ := List.forall_mem_cons.mp balanced
      exact head.append (ih later)

end IsBalanced

theorem isBalanced_padding (level : Nat) : IsBalanced (padding level) := by
  refine IsBalanced.of_forall_notMem fun char member => ?_
  rw [List.eq_of_mem_replicate member]
  decide

/-- Indentation only adds spaces. -/
theorem nesting_indent (opened : List Bracket) (level : Nat) (code : Text) :
    nesting opened (indent level code) = nesting opened code := by
  have line (opened : List Bracket) (line : Text) :
      nesting opened (indentLine level line) = nesting opened line := by
    unfold indentLine
    split
    · rfl
    · rw [nesting_append, (isBalanced_padding level).nesting_eq, Option.bind_some]
  have lines (opened : List Bracket) (lines : List Text) :
      nesting opened (lines.flatMap (indentLine level)) = nesting opened lines.flatten := by
    induction lines generalizing opened with
    | nil => rfl
    | cons first rest ih =>
        simp only [List.flatMap_cons, List.flatten_cons, nesting_append, line, ih]
  rw [indent, lines, lines_flatten]

theorem IsBalanced.indent {code : Text} (balanced : IsBalanced code) (level : Nat) :
    IsBalanced (indent level code) :=
  (nesting_indent [] level code).trans balanced

theorem nesting_line (opened : List Bracket) (level : Nat) (content : Text) :
    nesting opened (line level content) = nesting opened content := by
  have newline (opened : List Bracket) : nesting opened "\n" = some opened := rfl
  rw [line, nesting_append, nesting_append, (isBalanced_padding level).nesting_eq,
    Option.bind_some]
  simp only [newline, Option.bind_fun_some]

theorem IsBalanced.line {content : Text} (balanced : IsBalanced content) (level : Nat) :
    IsBalanced (line level content) :=
  (nesting_line [] level content).trans balanced

end Text

open Text (IsBalanced nesting)

theorem Receiver.balanced_text (receiver : Receiver) : IsBalanced receiver.text := by
  cases receiver <;> rfl

theorem RustType.balanced_text (type : RustType) : IsBalanced type.text := by
  cases type <;> rfl

theorem commaSeparated_balanced {parts : List Text} (balanced : ∀ part ∈ parts, IsBalanced part) :
    IsBalanced (commaSeparated parts) :=
  IsBalanced.intercalate rfl balanced

namespace Argument

variable {argument : Argument}

theorem balanced_declaration (word : Name.IsWord argument.ident) :
    IsBalanced argument.declaration := by
  have separated := (IsBalanced.of_isWord word).append (by decide : IsBalanced ": ")
  exact separated.append argument.type.balanced_text

theorem balanced_preparation (word : Name.IsWord argument.ident) :
    IsBalanced argument.preparation := by
  have ident := IsBalanced.of_isWord word
  unfold preparation
  cases argument.type.passing with
  | direct => rfl
  | ownedCopy =>
      -- The bracket behind `CString::new` is closed behind the ident that comes next.
      have copied : IsBalanced ("let " ++ argument.ident) := IsBalanced.append (by decide) ident
      have opened : nesting [] ("let " ++ argument.ident ++ " = cstr_core::CString::new(") =
          some [.round] := Text.nesting_append_of_eq_some copied rfl
      exact Text.nesting_append_of_eq_some (ident.nesting_behind opened) rfl

theorem balanced_operand (word : Name.IsWord argument.ident) : IsBalanced argument.operand := by
  unfold operand
  cases argument.type.passing with
  | direct => exact IsBalanced.of_isWord word
  | ownedCopy => exact (IsBalanced.of_isWord word).append rfl

end Argument

theorem nativeCall_balanced {callee : Text} {operands : List Text} (word : Name.IsWord callee)
    (balanced : ∀ operand ∈ operands, IsBalanced operand) :
    IsBalanced (nativeCall callee operands) := by
  have name := (by decide : IsBalanced "lvgl_sys::").append (IsBalanced.of_isWord word)
  have opened : nesting [] ("lvgl_sys::" ++ callee ++ "(") = some [.round] :=
    Text.nesting_append_of_eq_some name rfl
  have filled := (commaSeparated_balanced balanced).nesting_behind opened
  exact Text.nesting_append_of_eq_some filled rfl

theorem constructorText_balanced {callee : Text} (word : Name.IsWord callee) :
    IsBalanced (constructorText callee) := by
  have operands : ∀ operand ∈ (["parent.raw()?.as_mut()", "core::ptr::null_mut()"] : List Text),
      IsBalanced operand := by decide
  have call : IsBalanced (Text.line 2 ("let ptr = " ++
      nativeCall callee ["parent.raw()?.as_mut()", "core::ptr::null_mut()"] ++ ";")) :=
    (((by decide : IsBalanced "let ptr = ").append (nativeCall_balanced word operands)).append
      (by decide)).line 2
  have name : IsBalanced
      (Text.line 0 "pub fn new<C>(parent: &mut C) -> crate::LvResult<Self>") := by decide
  have signature : IsBalanced
      (Text.line 0 "pub fn new<C>(parent: &mut C) -> crate::LvResult<Self>" ++
        Text.line 0 "where" ++ Text.line 1 "C: crate::NativeObject,") :=
    (name.append (by decide)).append (by decide)
  have checked : IsBalanced (Text.line 2 "let raw = core::ptr::NonNull::new(ptr)?;") := by decide
  have wrapped : IsBalanced
      (Text.line 2 "let core = <crate::Obj as crate::Widget>::from_raw(raw);") := by decide
  have result : IsBalanced (Text.line 2 "Ok(Self \x7b core \x7d)") := by decide
  have started := Text.nesting_append_of_eq_some signature
    (rfl : nesting [] (Text.line 0 "\x7b") = some [.curly])
  have opened := Text.nesting_append_of_eq_some started
    (rfl : nesting [.curly] (Text.line 1 "unsafe \x7b") = some [.curly, .curly])
  have filled := result.nesting_behind (wrapped.nesting_behind
    (checked.nesting_behind (call.nesting_behind opened)))
  have closed := Text.nesting_append_of_eq_some filled
    (rfl : nesting [.curly, .curly] (Text.line 1 "\x7d") = some [.curly])
  exact Text.nesting_append_of_eq_some closed rfl

namespace Method

variable {method : Method}

theorem nesting_signature (plain : method.IsPlain) (opened : List Bracket) :
    nesting opened method.signature = some (.curly :: opened) := by
  have parts : ∀ part ∈ method.receiver.text :: method.arguments.map Argument.declaration,
      IsBalanced part := by
    intro part member
    rcases List.mem_cons.mp member with rfl | member
    · exact method.receiver.balanced_text
    · obtain ⟨argument, listed, rfl⟩ := List.mem_map.mp member
      exact Argument.balanced_declaration (plain.idents argument listed)
  have name := (by decide : IsBalanced "pub fn ").append (IsBalanced.of_isWord plain.name)
  have bracket : nesting opened ("pub fn " ++ method.name ++ "(") = some (.round :: opened) :=
    Text.nesting_append_of_eq_some (name.nesting_eq opened) rfl
  have filled := (commaSeparated_balanced parts).nesting_behind bracket
  exact Text.nesting_append_of_eq_some filled rfl

theorem balanced_call (plain : method.IsPlain) :
    IsBalanced (nativeCall method.callee
      ("self.core.raw()?.as_mut()" :: method.arguments.map Argument.operand) ++ ";") := by
  refine (nativeCall_balanced plain.callee fun operand member => ?_).append (by decide)
  rcases List.mem_cons.mp member with rfl | member
  · decide
  · obtain ⟨argument, listed, rfl⟩ := List.mem_map.mp member
    exact Argument.balanced_operand (plain.idents argument listed)

theorem balanced_text (plain : method.IsPlain) : IsBalanced method.text := by
  have copies : IsBalanced
      (method.arguments.flatMap fun argument => Text.indent 1 argument.preparation) :=
    IsBalanced.flatMap fun argument listed =>
      (Argument.balanced_preparation (plain.idents argument listed)).indent 1
  have signature : nesting [] (Text.line 0 method.signature) = some [.curly] :=
    (Text.nesting_line _ 0 _).trans (nesting_signature plain [])
  have opened := Text.nesting_append_of_eq_some (copies.nesting_behind signature)
    (rfl : nesting [.curly] (Text.line 1 "unsafe \x7b") = some [.curly, .curly])
  have filled := ((balanced_call plain).line 2).nesting_behind opened
  have closed := Text.nesting_append_of_eq_some filled
    (rfl : nesting [.curly, .curly] (Text.line 1 "\x7d") = some [.curly])
  have result : IsBalanced (Text.line 1 "Ok(())") := by decide
  exact Text.nesting_append_of_eq_some (result.nesting_behind closed) rfl

end Method

theorem Wrapper.balanced_text {wrapper : Wrapper} (plain : wrapper.IsPlain) :
    IsBalanced wrapper.text := by
  cases wrapper with
  | constructor callee => exact constructorText_balanced plain
  | method binding => exact Method.balanced_text plain

/-- Behind the front a brace is opened that stays open up to the last line, which closes it. -/
structure Text.IsBraced (front : Text) (lines : List Text) (block : Text) : Prop where
  newlines : ∀ line ∈ lines, '\n' ∉ line
  text : block = front ++ "\x7b\n" ++ Text.ofLines lines ++ "\x7d\n"
  outside : nesting [] front = some []
  inside : ∀ inner, inner <+: ("\n" : Text) ++ Text.ofLines lines →
    ∃ within, nesting [] (front ++ "\x7b" ++ inner) = some (within ++ [.curly])
  last : nesting [] (front ++ "\x7b\n" ++ Text.ofLines lines) = some [.curly]

theorem Text.IsBraced.balanced {front block : Text} {lines : List Text}
    (braced : IsBraced front lines block) : IsBalanced block := by
  rw [braced.text]
  exact nesting_append_of_eq_some braced.last rfl

namespace Definition

/-- What stands in front of the brace of an implementation block. -/
def front (object : Text) : Text :=
  "define_object!(" ++ object ++ ");\n\n" ++ "impl " ++ object ++ " "

theorem balanced_front {object : Text} (word : Name.IsWord object) :
    IsBalanced (front object) := by
  have name := IsBalanced.of_isWord word
  have opened := name.nesting_behind (rfl : nesting [] "define_object!(" = some [.round])
  have defined : IsBalanced ("define_object!(" ++ object ++ ");\n\n") :=
    Text.nesting_append_of_eq_some opened rfl
  exact ((defined.append (by decide)).append name).append (by decide)

variable {definition : Definition}

theorem text_eq_front (plain : definition.IsPlain) :
    definition.text =
      front definition.object ++ "\x7b\n" ++ Text.ofLines definition.body ++ "\x7d\n" := by
  have brace : "define_object!(" ++ definition.object ++ ");\n\n" ++ "impl " ++ definition.object ++
      " \x7b\n" = front definition.object ++ "\x7b\n" :=
    (List.append_assoc _ (" " : Text) ("\x7b\n" : Text)).symm
  unfold text
  rw [ofLines_body plain, brace]

theorem balanced_body (plain : definition.IsPlain) :
    IsBalanced (Text.ofLines definition.body) := by
  rw [ofLines_body plain]
  refine IsBalanced.intercalate (by decide) fun part member => ?_
  obtain ⟨wrapper, listed, rfl⟩ := List.mem_map.mp member
  exact (Wrapper.balanced_text (plain.wrappers wrapper listed)).indent 1

theorem isBraced_text (plain : definition.IsPlain) :
    Text.IsBraced (front definition.object) definition.body definition.text where
  newlines := newline_notMem_body plain
  text := text_eq_front plain
  outside := balanced_front plain.object
  inside := by
    intro inner starts
    have opened : nesting [] (front definition.object ++ "\x7b") = some [.curly] :=
      Text.nesting_append_of_eq_some (balanced_front plain.object) rfl
    have line : IsBalanced (("\n" : Text) ++ Text.ofLines definition.body) :=
      IsBalanced.append (by decide) (balanced_body plain)
    obtain ⟨within, found⟩ := line.nesting_prefix [.curly] starts
    exact ⟨within, Text.nesting_append_of_eq_some opened found⟩
  last := by
    have opened : nesting [] (front definition.object ++ "\x7b\n") = some [.curly] :=
      Text.nesting_append_of_eq_some (balanced_front plain.object) rfl
    exact (balanced_body plain).nesting_behind opened

end Definition

theorem Widget.isBraced_text {lib block : Text} {widget : Widget}
    (identifiers : widget.HasIdentifiers) (found : widget.text? lib = some block) :
    Text.IsBraced (Definition.front (Name.pascal widget.name)) (widget.definition lib).body
      block := by
  rw [text?_eq, Option.ite_none_left_eq_some, Option.some.injEq] at found
  obtain ⟨-, rfl⟩ := found
  have object : (widget.definition lib).object = Name.pascal widget.name := rfl
  exact object ▸ Definition.isBraced_text identifiers.definition_plain

/-- No bracket of a module closes another than the innermost open one. Nothing is open behind a
definition, and between the brace of its implementation block and the last line that closes it the
brace is never closed. -/
theorem generateModule_nested (lib : Text) {widgets : List Widget}
    (identifiers : ∀ widget ∈ widgets, widget.HasIdentifiers) :
    let blocks := (sortedByName widgets).filterMap (Widget.text? lib)
    let upTo (front : List Text) : Text :=
      "// Generated by lvgl-codegen - DO NOT EDIT\n" ++ "\n" ++ ("\n" : Text).intercalate front
    (generateModule lib widgets).value = upTo blocks ∧
      Text.nesting [] (generateModule lib widgets).value = some [] ∧
      (∀ front, front <+: blocks → Text.nesting [] (upTo front) = some []) ∧
      ∀ widget ∈ widgets, ∀ block, widget.text? lib = some block →
        ∃ lines, Text.IsBraced ("define_object!(" ++ Name.pascal widget.name ++ ");\n\n" ++
          "impl " ++ Name.pascal widget.name ++ " ") lines block := by
  intro blocks upTo
  have written : (generateModule lib widgets).value = upTo blocks :=
    generateModule_value lib widgets
  have balanced : ∀ block ∈ blocks, IsBalanced block := by
    intro block member
    obtain ⟨widget, sorted, found⟩ := List.mem_filterMap.mp member
    have listed := (sortedByName_perm widgets).mem_iff.mp sorted
    exact (Widget.isBraced_text (identifiers widget listed) found).balanced
  have fronts : ∀ front, front <+: blocks → nesting [] (upTo front) = some [] := by
    intro front starts
    have banner : IsBalanced ("// Generated by lvgl-codegen - DO NOT EDIT\n" ++ "\n") := by decide
    exact banner.append (IsBalanced.intercalate (by decide) fun block member =>
      balanced block (starts.subset member))
  refine ⟨written, ?_, fronts, fun widget listed block found => ?_⟩
  · rw [written]
    exact fronts blocks List.prefix_rfl
  · exact ⟨_, Widget.isBraced_text (identifiers widget listed) found⟩

/-- The spelling of a callback's type has a bracket that nothing closes. -/
theorem generateModule_nested_callback :
    let callback : Func :=
      { name := "lv_btn_set_cb"
        params := [⟨"btn", ⟨"lv_obj_t *"⟩⟩, ⟨"cb", ⟨"void (*)(lv_obj_t *"⟩⟩] }
    let button : Widget := ⟨"btn", callback :: buttonApi⟩
    let widgets : List Widget := [⟨"obj", []⟩, button]
    (∀ widget ∈ widgets, widget.HasIdentifiers) ∧
      Text.nesting [] (generateModule "lv_" widgets).value = some [] ∧
      ∃ block lines, button.text? "lv_" = some block ∧
        Text.IsBraced ("define_object!(" ++ Name.pascal button.name ++ ");\n\n" ++
          "impl " ++ Name.pascal button.name ++ " ") lines block := by
  intro callback button widgets
  have identifiers : ∀ widget ∈ widgets, widget.HasIdentifiers := by decide
  have written : button.text? "lv_" = some (button.definition "lv_").text := button.text?_eq "lv_"
  obtain ⟨-, nested, -, braced⟩ := generateModule_nested "lv_" identifiers
  obtain ⟨lines, inside⟩ := braced button (by decide) _ written
  exact ⟨identifiers, nested, _, lines, written, inside⟩

end WidgetBindings
