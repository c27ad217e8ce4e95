import WidgetBindings.Proofs.SortedNames
import WidgetBindings.Proofs.WrappedFunctions

namespace WidgetBindings

/-! What can be read back from the text of a module.

A module is a list of lines, and a brace at the margin closes a definition. Inside a definition
every line is indented but the last, a brace behind one level closes a wrapper, and an empty line
stands only between wrappers. So the text shows where each wrapper begins and ends.
-/

namespace Row

/-- The row without its line feed. -/
def line (row : Row) : Text :=
  Text.padding row.level ++ row.content

variable {row : Row}

theorem flatMap_text (rows : List Row) : rows.flatMap text = Text.ofLines (rows.map line) := by
  unfold Text.ofLines
  rw [List.flatMap_map]
  rfl

theorem line_raise (level : Nat) (row : Row) :
    (row.raise level).line = Text.padding level ++ row.line := by
  rw [line, line, ← List.append_assoc, Text.padding_add]
  rfl

theorem eq_of_line_eq_brace (brace : row.line = ("\x7d" : Text)) :
    row.level = 0 ∧ row.content = ("\x7d" : Text) := by
  obtain ⟨level, content⟩ := row
  cases level with
  | zero => exact ⟨rfl, brace⟩
  | succ level => cases brace

theorem newline_notMem_line (plain : row.IsPlain) : '\n' ∉ row.line := by
  intro member
  have code := (Text.isCode_padding row.level).append plain.code
  exact absurd (code '\n' member) (by decide)

end Row

theorem Argument.level_ne_zero_of_mem_rows {argument : Argument} {row : Row}
    (member : row ∈ argument.rows) : row.level ≠ 0 := by
  unfold rows at member
  cases passing : argument.type.passing with
  | direct => simp [passing] at member
  | ownedCopy =>
      rw [passing] at member
      rw [List.mem_singleton.mp member]
      exact Nat.one_ne_zero

namespace Wrapper

def lines (wrapper : Wrapper) : List Text :=
  wrapper.rows.map Row.line

/-- As they stand in a definition. -/
def innerLines (wrapper : Wrapper) : List Text :=
  wrapper.lines.map (Text.padding 1 ++ ·)

theorem text_eq_lines {wrapper : Wrapper} (plain : wrapper.IsPlain) :
    wrapper.text = Text.ofLines wrapper.lines := by
  rw [text_eq_rows plain, Row.flatMap_text, lines]

theorem indent_text_eq_lines {wrapper : Wrapper} (plain : wrapper.IsPlain) :
    Text.indent 1 wrapper.text = Text.ofLines wrapper.innerLines := by
  rw [indent_text plain, Row.flatMap_text, List.map_map, innerLines, lines, List.map_map]
  exact congrArg Text.ofLines (List.map_congr_left fun row _ => row.line_raise 1)

/-- The last row alone is a brace at the margin. -/
theorem exists_rows_eq (wrapper : Wrapper) :
    ∃ front, wrapper.rows = front ++ [⟨0, "\x7d"⟩] ∧
      ∀ row ∈ front, row.level = 0 → row.content ≠ ("\x7d" : Text) := by
  have raised (level : Nat) {claim : Prop} (atMargin : level + 1 = 0) : claim :=
    absurd atMargin (Nat.succ_ne_zero level)
  cases wrapper with
  | constructor callee =>
      refine ⟨(constructorRows callee).dropLast, rfl, ?_⟩
      simp only [constructorRows, List.dropLast_cons_cons, List.dropLast_singleton,
        List.forall_mem_cons]
      exact ⟨fun _ => by decide, fun _ => by decide, raised _, fun _ => by decide, raised _, raised _,
        raised _, raised _, raised _, raised _, fun row listed => absurd listed List.not_mem_nil⟩
  | method binding =>
      refine ⟨⟨0, binding.signature⟩ :: binding.arguments.flatMap Argument.rows ++
        [⟨1, "unsafe \x7b"⟩, ⟨2, nativeCall binding.callee
          ("self.core.raw()?.as_mut()" :: binding.arguments.map Argument.operand) ++ ";"⟩,
          ⟨1, "\x7d"⟩, ⟨1, "Ok(())"⟩], by simp [rows, Method.rows], ?_⟩
      have copies : ∀ row ∈ binding.arguments.flatMap Argument.rows, row.level = 0 →
          row.content ≠ ("\x7d" : Text) := by
        intro row member atMargin
        obtain ⟨argument, -, inside⟩ := List.mem_flatMap.mp member
        exact absurd atMargin (argument.level_ne_zero_of_mem_rows inside)
      simp only [List.cons_append, List.forall_mem_cons, List.forall_mem_append]
      have signed : binding.signature ≠ ("\x7d" : Text) := by
        intro brace
        cases brace
      exact ⟨fun _ => signed, copies, raised _, raised _, raised _, raised _,
        fun row listed => absurd listed List.not_mem_nil⟩

theorem closed_lines (wrapper : Wrapper) : IsClosed ("\x7d" : Text) wrapper.lines := by
  obtain ⟨front, split, other⟩ := wrapper.exists_rows_eq
  refine ⟨front.map Row.line, by rw [lines, split, List.map_append]; rfl, fun member => ?_⟩
  obtain ⟨row, listed, brace⟩ := List.mem_map.mp member
  obtain ⟨atMargin, content⟩ := Row.eq_of_line_eq_brace brace
  exact other row listed atMargin content

theorem block_innerLines (wrapper : Wrapper) :
    IsBlock (Text.padding 1 ++ ("\x7d" : Text)) (some ("\x7d" : Text)) wrapper.innerLines where
  closed := wrapper.closed_lines.map (List.append_right_injective _)
  apart := by
    obtain ⟨line, more, split⟩ := List.exists_cons_of_ne_nil wrapper.closed_lines.ne_nil
    rw [innerLines, split]
    nofun

theorem newline_notMem_lines {wrapper : Wrapper} (plain : wrapper.IsPlain) :
    ∀ line ∈ wrapper.lines, '\n' ∉ line := by
  intro line member
  obtain ⟨row, listed, rfl⟩ := List.mem_map.mp member
  exact Row.newline_notMem_line (rows_plain plain row listed)

theorem newline_notMem_innerLines {wrapper : Wrapper} (plain : wrapper.IsPlain) :
    ∀ line ∈ wrapper.innerLines, '\n' ∉ line := by
  intro line member
  obtain ⟨inner, listed, rfl⟩ := List.mem_map.mp member
  exact List.not_mem_append (by decide) (newline_notMem_lines plain inner listed)

end Wrapper

namespace Definition

def header (object : Text) : List Text :=
  ["define_object!(" ++ object ++ ");", [], "impl " ++ object ++ " \x7b"]

/-- The wrappers with empty lines between them. -/
def body (definition : Definition) : List Text :=
  [([] : Text)].intercalate (definition.wrappers.map Wrapper.innerLines)

def lines (definition : Definition) : List Text :=
  header definition.object ++ definition.body ++ [("\x7d" : Text)]

variable {definition first second : Definition}

theorem ofLines_body (plain : definition.IsPlain) :
    Text.ofLines definition.body =
      ("\n" : Text).intercalate (definition.wrappers.map fun wrapper =>
        Text.indent 1 wrapper.text) := by
  have wrappers : (definition.wrappers.map fun wrapper => Text.indent 1 wrapper.text) =
      (definition.wrappers.map Wrapper.innerLines).map Text.ofLines := by
    rw [List.map_map]
    exact List.map_congr_left fun wrapper listed =>
      Wrapper.indent_text_eq_lines (plain.wrappers wrapper listed)
  rw [wrappers, Text.intercalate_ofLines, body]

theorem text_eq_lines (plain : definition.IsPlain) :
    definition.text = Text.ofLines definition.lines := by
  unfold text
  rw [← ofLines_body plain]
  simp [lines, header, Text.ofLines]

theorem brace_notMem_body (definition : Definition) : ("\x7d" : Text) ∉ definition.body := by
  intro member
  rcases mem_intercalate member with inBetween | ⟨block, listed, inside⟩
  · exact absurd inBetween (by decide)
  · obtain ⟨wrapper, -, rfl⟩ := List.mem_map.mp listed
    obtain ⟨line, -, indented⟩ := List.mem_map.mp inside
    cases indented

theorem block_lines (definition : Definition) :
    IsBlock ("\x7d" : Text) none definition.lines where
  closed := by
    refine ⟨header definition.object ++ definition.body, rfl, ?_⟩
    refine List.not_mem_append (fun member => ?_) definition.brace_notMem_body
    simp only [header, List.mem_cons, List.not_mem_nil, or_false] at member
    rcases member with same | same | same <;> cases same
  apart := nofun

theorem newline_notMem_header {object : Text} (plain : '\n' ∉ object) :
    ∀ line ∈ header object, '\n' ∉ line := by
  simp only [header, List.forall_mem_cons, List.mem_append, not_or]
  exact ⟨⟨⟨by decide, plain⟩, by decide⟩, by decide, ⟨⟨by decide, plain⟩, by decide⟩, nofun⟩

theorem newline_notMem_body (plain : definition.IsPlain) :
    ∀ line ∈ definition.body, '\n' ∉ line := by
  refine Text.newline_notMem_intercalate (List.forall_mem_map.mpr ?_)
  exact fun wrapper wrapped => Wrapper.newline_notMem_innerLines (plain.wrappers wrapper wrapped)

theorem newline_notMem_lines (plain : definition.IsPlain) :
    ∀ line ∈ definition.lines, '\n' ∉ line := by
  intro line member
  rcases List.mem_append.mp member with inFront | atEnd
  · rcases List.mem_append.mp inFront with inHeader | inBody
    · exact newline_notMem_header (plain.object.notMem (by decide)) line inHeader
    · exact newline_notMem_body plain line inBody
  · rw [List.mem_singleton.mp atEnd]
    decide

theorem eq_of_lines_eq (same : first.lines = second.lines) :
    first.object = second.object ∧
      first.wrappers.map Wrapper.lines = second.wrappers.map Wrapper.lines := by
  simp only [lines, header, List.cons_append, List.nil_append] at same
  obtain ⟨opening, behind⟩ := List.cons.inj same
  have object := List.append_cancel_left (List.append_cancel_right opening)
  obtain ⟨-, inside⟩ := List.cons.inj (List.cons.inj behind).2
  have isBlock (definition : Definition) : ∀ block ∈ definition.wrappers.map Wrapper.innerLines,
      IsBlock (Text.padding 1 ++ ("\x7d" : Text)) (some ("\x7d" : Text)) block :=
    List.forall_mem_map.mpr fun wrapper _ => wrapper.block_innerLines
  have ends : [("\x7d" : Text)].head? = some ("\x7d" : Text) := rfl
  obtain ⟨blocks, -⟩ := intercalate_inj (isBlock first) (isBlock second) (by decide) ends ends
    inside
  have raised : Function.Injective (List.map (List.map (Text.padding 1 ++ ·))) :=
    List.map_injective_iff.mpr (List.map_injective_iff.mpr (List.append_right_injective _))
  have wrappers : (first.wrappers.map Wrapper.lines).map (List.map (Text.padding 1 ++ ·)) =
      (second.wrappers.map Wrapper.lines).map (List.map (Text.padding 1 ++ ·)) := by
    rw [List.map_map, List.map_map]
    exact blocks
  exact ⟨object, raised wrappers⟩

/-- Two definitions say the same. -/
def Agree (first second : Definition) : Prop :=
  first.object = second.object ∧ first.wrappers.map Wrapper.text = second.wrappers.map Wrapper.text

theorem texts_eq (plain : definition.IsPlain) :
    definition.wrappers.map Wrapper.text =
      (definition.wrappers.map Wrapper.lines).map Text.ofLines := by
  rw [List.map_map]
  exact List.map_congr_left fun wrapper listed =>
    Wrapper.text_eq_lines (plain.wrappers wrapper listed)

theorem agree_of_lines_eq (firstPlain : first.IsPlain) (secondPlain : second.IsPlain)
    (same : first.lines = second.lines) : first.Agree second := by
  obtain ⟨object, wrappers⟩ := eq_of_lines_eq same
  exact ⟨object, by rw [texts_eq firstPlain, texts_eq secondPlain, wrappers]⟩

theorem text_eq_of_agree (agree : first.Agree second) : first.text = second.text := by
  obtain ⟨object, wrappers⟩ := agree
  have indented : (first.wrappers.map fun wrapper => Text.indent 1 wrapper.text) =
      second.wrappers.map fun wrapper => Text.indent 1 wrapper.text := by
    have raised := congrArg (List.map (Text.indent 1)) wrappers
    rwa [List.map_map, List.map_map] at raised
  unfold text
  rw [object, indented]

end Definition

section Module

variable {first second definitions : List Definition}

def moduleLines (definitions : List Definition) : List Text :=
  [("// Generated by lvgl-codegen - DO NOT EDIT" : Text), []] ++
    [([] : Text)].intercalate (definitions.map Definition.lines)

theorem moduleText_eq_lines (plain : ∀ definition ∈ definitions, definition.IsPlain) :
    moduleText definitions = Text.ofLines (moduleLines definitions) := by
  have texts : definitions.map Definition.text =
      (definitions.map Definition.lines).map Text.ofLines := by
    rw [List.map_map]
    exact List.map_congr_left fun definition listed =>
      Definition.text_eq_lines (plain definition listed)
  unfold moduleText moduleLines
  rw [texts, Text.intercalate_ofLines, Text.ofLines_append]
  rfl

theorem newline_notMem_moduleLines (plain : ∀ definition ∈ definitions, definition.IsPlain) :
    ∀ line ∈ moduleLines definitions, '\n' ∉ line := by
  intro line member
  rcases List.mem_append.mp member with inHeader | inDefinitions
  · rcases List.mem_cons.mp inHeader with rfl | inHeader
    · decide
    · rw [List.mem_singleton.mp inHeader]
      exact List.not_mem_nil
  · refine Text.newline_notMem_intercalate (List.forall_mem_map.mpr ?_) line inDefinitions
    exact fun definition defined => Definition.newline_notMem_lines (plain definition defined)

theorem lines_eq_of_moduleText_eq (firstPlain : ∀ definition ∈ first, definition.IsPlain)
    (secondPlain : ∀ definition ∈ second, definition.IsPlain)
    (same : moduleText first = moduleText second) :
    first.map Definition.lines = second.map Definition.lines := by
  rw [moduleText_eq_lines firstPlain, moduleText_eq_lines secondPlain] at same
  have lines := Text.ofLines_inj (newline_notMem_moduleLines firstPlain)
    (newline_notMem_moduleLines secondPlain) same
  have isBlock (definitions : List Definition) : ∀ block ∈ definitions.map Definition.lines,
      IsBlock ("\x7d" : Text) none block :=
    List.forall_mem_map.mpr fun definition _ => definition.block_lines
  have inside : [([] : Text)].intercalate (first.map Definition.lines) ++ [] =
      [([] : Text)].intercalate (second.map Definition.lines) ++ [] := by
    rw [List.append_nil, List.append_nil]
    exact List.append_cancel_left lines
  exact (intercalate_inj (isBlock first) (isBlock second) nofun rfl rfl inside).1

/-- Modules have one text only if their definitions say the same, one by one. -/
theorem moduleText_eq_iff (firstPlain : ∀ definition ∈ first, definition.IsPlain)
    (secondPlain : ∀ definition ∈ second, definition.IsPlain) :
    moduleText first = moduleText second ↔ List.Forall₂ Definition.Agree first second := by
  refine Iff.intro (fun same => ?_) (fun agree => ?_)
  · have lines := lines_eq_of_moduleText_eq firstPlain secondPlain same
    rw [← List.forall₂_eq_eq_eq, List.forall₂_map_left_iff, List.forall₂_map_right_iff] at lines
    have onePlain := (List.forall₂_and_left first second).mpr ⟨firstPlain, lines⟩
    have bothPlain := (List.forall₂_and_left second first).mpr ⟨secondPlain, onePlain.flip⟩
    exact bothPlain.flip.imp fun _ _ ⟨otherPlain, onePlain, sameLines⟩ =>
      Definition.agree_of_lines_eq onePlain otherPlain sameLines
  · have texts : first.map Definition.text = second.map Definition.text := by
      rw [← List.forall₂_eq_eq_eq, List.forall₂_map_left_iff, List.forall₂_map_right_iff]
      exact agree.imp fun _ _ => Definition.text_eq_of_agree
    unfold moduleText
    rw [texts]

end Module

/-- All names of a widget are identifiers. -/
structure Widget.HasIdentifiers (widget : Widget) : Prop where
  name : Name.isIdentifier widget.name = true
  methods : ∀ func ∈ widget.methods, func.HasIdentifiers

instance (widget : Widget) : Decidable widget.HasIdentifiers :=
  decidable_of_iff (Name.isIdentifier widget.name = true ∧
      ∀ func ∈ widget.methods, func.HasIdentifiers)
    ⟨fun ⟨name, methods⟩ => ⟨name, methods⟩, fun ⟨name, methods⟩ => ⟨name, methods⟩⟩

theorem Widget.HasIdentifiers.definition_plain {lib : Text} {widget : Widget}
    (identifiers : widget.HasIdentifiers) : (widget.definition lib).IsPlain :=
  Widget.definition_plain (Name.isWord_of_isIdentifier identifiers.name) identifiers.methods

/-- The texts of the functions that are not skipped. -/
def Widget.texts (lib : Text) (widget : Widget) : List Text :=
  widget.methods.filterMap fun func => (func.tryWrapper lib widget.name).value.map Wrapper.text

theorem Widget.map_text_definition (lib : Text) (widget : Widget) :
    (widget.definition lib).wrappers.map Wrapper.text = widget.texts lib := by
  unfold definition texts
  simp only [List.map_filterMap, Func.tryWrapper_value]

/-- The widgets that a module defines, in its order. -/
def defined (widgets : List Widget) : List Widget :=
  (sortedByName widgets).filter (·.name ≠ ("obj" : Text))

theorem definitions_eq_map_defined (lib : Text) (widgets : List Widget) :
    (definitions lib widgets).value = (defined widgets).map (Widget.definition lib) := by
  have kept (widget : Widget) : (!widget.isBase) = decide (widget.name ≠ ("obj" : Text)) := by
    simp only [Widget.isBase, baseObject, ne_eq, decide_not, beq_eq_decide]
  simp only [definitions_value, defined, kept]

/-- The text of a module says which types it defines and, function by function, what each of them
wraps. Nothing else enters the text: the names of the widgets and the libraries may differ. -/
theorem generateModule_eq_iff {firstLib secondLib : Text} {first second : List Widget}
    (firstIdentifiers : ∀ widget ∈ first, widget.HasIdentifiers)
    (secondIdentifiers : ∀ widget ∈ second, widget.HasIdentifiers) :
    ∃ firstOrdered secondOrdered,
      OrderedByName first firstOrdered ∧ OrderedByName second secondOrdered ∧
      ((generateModule firstLib first).value = (generateModule secondLib second).value ↔
        List.Forall₂ (fun one other => Name.pascal one.name = Name.pascal other.name ∧
            one.texts firstLib = other.texts secondLib)
          (firstOrdered.filter (·.name ≠ ("obj" : Text)))
          (secondOrdered.filter (·.name ≠ ("obj" : Text)))) := by
  have plain {lib : Text} {widgets : List Widget}
      (identifiers : ∀ widget ∈ widgets, widget.HasIdentifiers) :
      ∀ definition ∈ (definitions lib widgets).value, definition.IsPlain :=
    plain_of_mem_definitions
      (fun widget listed => Name.isWord_of_isIdentifier (identifiers widget listed).name)
      (fun widget listed => (identifiers widget listed).methods)
  refine ⟨_, _, orderedByName_sortedByName first, orderedByName_sortedByName second, ?_⟩
  rw [generateModule, generateModule, Logged.map_value, Logged.map_value,
    moduleText_eq_iff (plain firstIdentifiers) (plain secondIdentifiers),
    definitions_eq_map_defined, definitions_eq_map_defined, List.forall₂_map_left_iff,
    List.forall₂_map_right_iff]
  simp only [Definition.Agree, Widget.map_text_definition]
  rfl

/-- A capital letter, the base object and the order of the widgets leave no trace in a module, and a
function outside the stem has one text in both libraries. -/
theorem generateModule_eq_iff_button :
    let method : Func := { name := "lv_set_width", params := [⟨"btn", ⟨"lv_obj_t *"⟩⟩] }
    let first : List Widget := [⟨"btn", [method]⟩, ⟨"arc", []⟩]
    let second : List Widget := [⟨"obj", [method]⟩, ⟨"Arc", []⟩, ⟨"Btn", [method]⟩]
    let firstOrdered : List Widget := [⟨"arc", []⟩, ⟨"btn", [method]⟩]
    let secondOrdered : List Widget := [⟨"Arc", []⟩, ⟨"Btn", [method]⟩, ⟨"obj", [method]⟩]
    (∀ widget ∈ first, widget.HasIdentifiers) ∧ (∀ widget ∈ second, widget.HasIdentifiers) ∧
      OrderedByName first firstOrdered ∧ OrderedByName second secondOrdered ∧
      List.Forall₂ (fun one other => Name.pascal one.name = Name.pascal other.name ∧
          one.texts "lv_" = other.texts "tft_")
        (firstOrdered.filter (·.name ≠ ("obj" : Text)))
        (secondOrdered.filter (·.name ≠ ("obj" : Text))) ∧
      (generateModule "lv_" first).value = (generateModule "tft_" second).value := by
  intro method first second firstOrdered secondOrdered
  have firstIdentifiers : ∀ widget ∈ first, widget.HasIdentifiers := by decide
  have secondIdentifiers : ∀ widget ∈ second, widget.HasIdentifiers := by decide
  have firstOrder : OrderedByName first firstOrdered :=
    .of_nodup (.swap _ _ _) (by decide) (by decide)
  have secondOrder : OrderedByName second secondOrdered :=
    .of_nodup (by decide) (by decide) (by decide)
  have wrappers : (Widget.definition "lv_" ⟨"btn", [method]⟩).wrappers =
      (Widget.definition "tft_" ⟨"Btn", [method]⟩).wrappers := by decide
  have texts : Widget.texts "lv_" ⟨"btn", [method]⟩ = Widget.texts "tft_" ⟨"Btn", [method]⟩ := by
    rw [← Widget.map_text_definition, ← Widget.map_text_definition, wrappers]
  have agree : List.Forall₂ (fun one other : Widget =>
      Name.pascal one.name = Name.pascal other.name ∧ one.texts "lv_" = other.texts "tft_")
      [⟨"arc", []⟩, ⟨"btn", [method]⟩] [⟨"Arc", []⟩, ⟨"Btn", [method]⟩] :=
    .cons (by decide) (.cons ⟨by decide, texts⟩ .nil)
  obtain ⟨_, _, firstSorted, secondSorted, same⟩ :=
    @generateModule_eq_iff "lv_" "tft_" first second firstIdentifiers secondIdentifiers
  obtain rfl := firstSorted.unique firstOrder
  obtain rfl := secondSorted.unique secondOrder
  exact ⟨firstIdentifiers, secondIdentifiers, firstOrder, secondOrder, agree, same.mpr agree⟩

end WidgetBindings
