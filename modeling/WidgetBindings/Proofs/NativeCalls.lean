import WidgetBindings.Proofs.Definition
import WidgetBindings.Proofs.Naming
import WidgetBindings.Proofs.Occurrences

namespace WidgetBindings

/-! The native calls in the text of a module.

A native call is found in the text by the function's path and the bracket behind it. Every wrapper
holds one call, to the function that it wraps, and nothing else in a module looks like a call.
-/

open Text

def callMark (name : Text) : Text :=
  "lvgl_sys::" ++ name ++ "("

section Mark

variable {name : Text}

theorem callMark_nonempty : callMark name ≠ [] :=
  List.append_ne_nil_of_right_ne_nil _ (by decide)

theorem mem_callMark {char : Char} (listed : char ∈ ("lvgl_sys::(" : Text)) :
    char ∈ callMark name := by
  have parts : char ∈ ("lvgl_sys::" : Text) ∨ char ∈ ("(" : Text) := List.mem_append.mp listed
  exact parts.elim (fun inPath => List.mem_append_left _ (List.mem_append_left _ inPath))
    (List.mem_append_right _)

/-- A character that a path ends at. -/
def isBreak (char : Char) : Bool :=
  !Name.isWordChar char && char != ':'

/-- A character that no call holds. -/
def isGap (char : Char) : Bool :=
  isBreak char && char != '('

theorem notMem_dropLast_callMark {char : Char} (word : Name.IsWord name)
    (breaks : isBreak char = true) : char ∉ (callMark name).dropLast := by
  have path : (callMark name).dropLast = "lvgl_sys::" ++ name := List.dropLast_concat
  simp only [isBreak, Bool.and_eq_true, Bool.not_eq_true', bne_iff_ne, ne_eq] at breaks
  rw [path, List.mem_append, not_or]
  refine ⟨fun listed => ?_, word.notMem breaks.1⟩
  have known := List.all_eq_true.mp (by decide : ("lvgl_sys::" : Text).all
    fun char => Name.isWordChar char || char == ':') char listed
  simp [breaks.1, breaks.2] at known

theorem notMem_callMark {char : Char} (word : Name.IsWord name) (gap : isGap char = true) :
    char ∉ callMark name := by
  obtain ⟨breaks, bracket⟩ := Bool.and_eq_true_iff.mp gap
  intro member
  rcases List.mem_append.mp member with inPath | inBracket
  · have path : (callMark name).dropLast = "lvgl_sys::" ++ name := List.dropLast_concat
    exact notMem_dropLast_callMark word breaks (path ▸ inPath)
  · exact bne_iff_ne.mp bracket (List.mem_singleton.mp inBracket)

section Cuts

variable {left right : Text} {char : Char}

theorem occurrences_append_of_break (word : Name.IsWord name) (ends : left.getLast? = some char)
    (breaks : isBreak char = true) :
    occurrences (callMark name) (left ++ right) =
      occurrences (callMark name) left + occurrences (callMark name) right :=
  occurrences_append_of_getLast? callMark_nonempty ends (notMem_dropLast_callMark word breaks)

theorem occurrences_append_of_gap (word : Name.IsWord name) (starts : right.head? = some char)
    (gap : isGap char = true) :
    occurrences (callMark name) (left ++ right) =
      occurrences (callMark name) left + occurrences (callMark name) right :=
  occurrences_append_of_head? callMark_nonempty starts fun member =>
    notMem_callMark word gap (List.mem_of_mem_tail member)

theorem occurrences_gaps_append (word : Name.IsWord name) (gaps : left.all isGap = true) :
    occurrences (callMark name) (left ++ right) = occurrences (callMark name) right :=
  occurrences_append_of_foreign_left callMark_nonempty fun char member =>
    notMem_callMark word (List.all_eq_true.mp gaps char member)

theorem occurrences_append_gaps (word : Name.IsWord name) (gaps : right.all isGap = true) :
    occurrences (callMark name) (left ++ right) = occurrences (callMark name) left :=
  occurrences_append_of_foreign_right callMark_nonempty fun char member =>
    notMem_callMark word (List.all_eq_true.mp gaps char member)

end Cuts

theorem callMark_append (name rest : Text) :
    callMark name ++ rest = ("lvgl_sys::" : Text) ++ (name ++ '(' :: rest) := by
  unfold callMark
  rw [List.append_assoc, List.append_assoc]
  rfl

theorem callMark_prefix_iff {callee : Text} (word : Name.IsWord name)
    (calleeWord : Name.IsWord callee) : callMark name <+: callMark callee ↔ callee = name := by
  have bracket : Name.isWordChar '(' = false := by decide
  refine ⟨fun ⟨rest, split⟩ => ?_, fun same => same ▸ List.prefix_refl _⟩
  rw [← List.append_nil (callMark callee), callMark_append, callMark_append] at split
  have behind := List.append_cancel_left split
  exact (eq_of_append_delimiter (word.notMem bracket) (calleeWord.notMem bracket) behind).1.symm

/-- A call is found once in its own text, and no other call is found there. -/
theorem occurrences_callMark {callee : Text} (word : Name.IsWord name)
    (calleeWord : Name.IsWord callee) :
    occurrences (callMark name) (callMark callee) = if callee = name then 1 else 0 := by
  have colon : ':' ∉ callee ++ ("(" : Text) :=
    List.not_mem_append (calleeWord.notMem (by decide)) (by decide)
  have behind := occurrences_eq_zero (mem_callMark (by decide) : ':' ∈ callMark name) colon
  have path : callMark name = 'l' :: 'v' :: ("gl_sys::" ++ name ++ "(") := rfl
  have text : callMark callee =
      'l' :: 'v' :: 'g' :: 'l' :: '_' :: 's' :: 'y' :: 's' :: ':' :: ':' :: (callee ++ "(") := rfl
  have skip {char : Char} {rest : Text} (other : ¬ callMark name <+: char :: rest) :
      occurrences (callMark name) (char :: rest) = occurrences (callMark name) rest := by
    rw [occurrences_cons, if_neg other, Nat.add_zero]
  have start := callMark_prefix_iff word calleeWord
  rw [text] at start ⊢
  rw [occurrences_cons, skip, skip, skip, skip, skip, skip, skip, skip, skip, behind, Nat.zero_add]
  · simp only [start]
  all_goals
    rw [path]
    simp [List.cons_prefix_cons]

/-- A text that lacks a character of every call holds no call. -/
theorem occurrences_silent {char : Char} {text : Text}
    (inside : char ∈ ("lvgl_sys::(" : Text)) (absent : char ∉ text) :
    occurrences (callMark name) text = 0 :=
  occurrences_eq_zero (mem_callMark inside) absent

theorem Row.occurrences_text (word : Name.IsWord name) (row : Row) :
    occurrences (callMark name) row.text = occurrences (callMark name) row.content := by
  have spaces : (padding row.level).all isGap = true := by
    refine List.all_eq_true.mpr fun char member => ?_
    rw [List.eq_of_mem_replicate member]
    decide
  unfold text line
  rw [occurrences_append_gaps word (by decide), occurrences_gaps_append word spaces]

theorem Row.occurrences_flatMap_text (word : Name.IsWord name) (rows : List Row) :
    occurrences (callMark name) (rows.flatMap Row.text) =
      (rows.map fun row => occurrences (callMark name) row.content).sum := by
  induction rows with
  | nil => exact occurrences_nil callMark_nonempty
  | cons row rest ih =>
      have ends : row.text.getLast? = some '\n' := List.getLast?_concat
      rw [List.flatMap_cons, occurrences_append_of_break word ends (by decide),
        Row.occurrences_text word, ih, List.map_cons, List.sum_cons]

theorem occurrences_nativeCall {callee : Text} {operands : List Text} {char : Char}
    (word : Name.IsWord name) (calleeWord : Name.IsWord callee)
    (inside : char ∈ ("lvgl_sys::(" : Text)) (outside : char ∉ (", );" : Text))
    (silent : ∀ operand ∈ operands, char ∉ operand) :
    occurrences (callMark name) (nativeCall callee operands ++ ";") =
      if callee = name then 1 else 0 := by
  have split : nativeCall callee operands ++ ";" =
      callMark callee ++ (commaSeparated operands ++ (")" ++ ";")) := by
    unfold nativeCall callMark
    rw [List.append_assoc, List.append_assoc]
  have absent : char ∉ commaSeparated operands ++ (")" ++ ";" : Text) := by
    intro member
    rcases List.mem_append.mp member with inOperands | inEnd
    · rcases mem_intercalate inOperands with inComma | ⟨operand, listed, inOperand⟩
      · exact outside ((by decide : (", " : Text) ⊆ ", );") inComma)
      · exact silent operand listed inOperand
    · exact outside ((by decide : (")" ++ ";" : Text) ⊆ ", );") inEnd)
  have ends : (callMark callee).getLast? = some '(' := List.getLast?_concat
  rw [split, occurrences_append_of_break word ends (by decide),
    occurrences_callMark word calleeWord, occurrences_silent inside absent, Nat.add_zero]

theorem Argument.occurrences_copying {argument : Argument} (word : Name.IsWord name)
    (identWord : Name.IsWord argument.ident) :
    occurrences (callMark name) argument.copying = 0 := by
  have noColon : ':' ∉ argument.ident := identWord.notMem (by decide)
  have before : occurrences (callMark name) ("let " ++ argument.ident) = 0 :=
    occurrences_silent (by decide) (List.not_mem_append (by decide) noColon)
  have making : occurrences (callMark name) (" = cstr_core::CString::new(" : Text) = 0 :=
    occurrences_silent (by decide : 'y' ∈ _) (by decide)
  have behind : occurrences (callMark name) (argument.ident ++ (")?;" : Text)) = 0 :=
    occurrences_silent (by decide) (List.not_mem_append noColon (by decide))
  have ends : (" = cstr_core::CString::new(" : Text).getLast? = some '(' := by decide
  unfold copying
  rw [List.append_assoc, List.append_assoc,
    occurrences_append_of_gap word rfl (by decide : isGap ' ' = true), before, Nat.zero_add,
    occurrences_append_of_break word ends (by decide), making, behind]

theorem Method.occurrences_signature {method : Method} (word : Name.IsWord name)
    (plain : method.IsPlain) : occurrences (callMark name) method.signature = 0 := by
  have named : ':' ∉ "pub fn " ++ method.name :=
    List.not_mem_append (by decide) (plain.name.notMem (by decide))
  have before : occurrences (callMark name) ("pub fn " ++ method.name ++ "(") = 0 :=
    occurrences_silent (by decide) (List.not_mem_append named (by decide))
  have inside : occurrences (callMark name) (commaSeparated
      (method.receiver.text :: method.arguments.map Argument.declaration)) = 0 := by
    refine occurrences_silent (by decide : '(' ∈ _) fun member => ?_
    rcases mem_intercalate member with inComma | ⟨part, listed, inPart⟩
    · exact absurd inComma (by decide)
    · rcases List.mem_cons.mp listed with rfl | listed
      · revert inPart
        cases method.receiver <;> decide
      · obtain ⟨argument, declared, rfl⟩ := List.mem_map.mp listed
        exact Argument.notMem_declaration (plain.idents argument declared) (by decide) (by decide)
          inPart
  have behind : occurrences (callMark name) (") -> crate::LvResult<()> \x7b" : Text) = 0 :=
    occurrences_silent (by decide : 'y' ∈ _) (by decide)
  have ends : ("pub fn " ++ method.name ++ "(" : Text).getLast? = some '(' := List.getLast?_concat
  have split : method.signature = ("pub fn " ++ method.name ++ "(") ++ (commaSeparated
      (method.receiver.text :: method.arguments.map Argument.declaration) ++
      (") -> crate::LvResult<()> \x7b" : Text)) := by
    unfold signature
    rw [List.append_assoc ("pub fn " ++ method.name ++ "(" : Text)]
  rw [split, occurrences_append_of_break word ends (by decide), before,
    occurrences_append_of_gap word rfl (by decide : isGap ')' = true), inside, behind]

theorem Argument.occurrences_rows {argument : Argument} (word : Name.IsWord name)
    (identWord : Name.IsWord argument.ident) :
    ∀ row ∈ argument.rows, occurrences (callMark name) row.content = 0 := by
  unfold rows
  cases argument.type.passing with
  | direct => simp
  | ownedCopy => simpa using occurrences_copying word identWord

theorem Argument.notMem_operand {argument : Argument} (identWord : Name.IsWord argument.ident) :
    ':' ∉ argument.operand := by
  have plain : ':' ∉ argument.ident := identWord.notMem (by decide)
  unfold operand Passing.operand
  cases argument.type.passing with
  | direct => exact plain
  | ownedCopy => exact List.not_mem_append plain (by decide)

/-- A method holds the call to its own function, and no other. -/
theorem Method.occurrences_rows {method : Method} (word : Name.IsWord name)
    (plain : method.IsPlain) :
    (method.rows.map fun row => occurrences (callMark name) row.content).sum =
      if method.callee = name then 1 else 0 := by
  have copies : ((method.arguments.flatMap Argument.rows).map fun row =>
      occurrences (callMark name) row.content).sum = 0 := by
    refine List.sum_eq_zero_iff_forall_eq_nat.mpr fun count member => ?_
    obtain ⟨row, listed, rfl⟩ := List.mem_map.mp member
    obtain ⟨argument, passed, inside⟩ := List.mem_flatMap.mp listed
    exact Argument.occurrences_rows word (plain.idents argument passed) row inside
  have operands : ∀ operand ∈
      ("self.core.raw()?.as_mut()" : Text) :: method.arguments.map Argument.operand,
      ':' ∉ operand := by
    intro operand member
    rcases List.mem_cons.mp member with rfl | listed
    · decide
    · obtain ⟨argument, passed, rfl⟩ := List.mem_map.mp listed
      exact Argument.notMem_operand (plain.idents argument passed)
  have call := occurrences_nativeCall word plain.callee (by decide) (by decide) operands
  have opening : occurrences (callMark name) ("unsafe \x7b" : Text) = 0 :=
    occurrences_silent (by decide : ':' ∈ _) (by decide)
  have closing : occurrences (callMark name) ("\x7d" : Text) = 0 :=
    occurrences_silent (by decide : ':' ∈ _) (by decide)
  have result : occurrences (callMark name) ("Ok(())" : Text) = 0 :=
    occurrences_silent (by decide : ':' ∈ _) (by decide)
  unfold rows
  simp only [List.cons_append, List.map_cons, List.map_append, List.sum_cons, List.sum_append,
    List.map_nil, List.sum_nil, occurrences_signature word plain, copies, call, opening, closing,
    result, Nat.zero_add, Nat.add_zero]

theorem occurrences_constructorRows {callee : Text} (word : Name.IsWord name)
    (calleeWord : Name.IsWord callee) :
    ((constructorRows callee).map fun row => occurrences (callMark name) row.content).sum =
      if callee = name then 1 else 0 := by
  -- No other line has a `y`, which every call has in its path.
  have silent {text : Text} (absent : 'y' ∉ text) : occurrences (callMark name) text = 0 :=
    occurrences_silent (by decide) absent
  have call : occurrences (callMark name) (nativeCall callee
      ["parent.raw()?.as_mut()", "core::ptr::null_mut()"] ++ ";") = if callee = name then 1 else 0 :=
    occurrences_nativeCall word calleeWord (by decide : 'y' ∈ _) (by decide) (by decide)
  have binding : occurrences (callMark name) ("let ptr = " ++ nativeCall callee
      ["parent.raw()?.as_mut()", "core::ptr::null_mut()"] ++ ";") =
        if callee = name then 1 else 0 := by
    have ends : ("let ptr = " : Text).getLast? = some ' ' := by decide
    rw [List.append_assoc, occurrences_append_of_break word ends (by decide),
      silent (by decide), call, Nat.zero_add]
  unfold constructorRows
  simp only [List.map_cons, List.sum_cons, List.map_nil, List.sum_nil, binding]
  rw [silent (by decide), silent (by decide), silent (by decide), silent (by decide),
    silent (by decide), silent (by decide), silent (by decide), silent (by decide),
    silent (by decide)]
  simp only [Nat.zero_add, Nat.add_zero]

theorem Wrapper.occurrences_rows {wrapper : Wrapper} (word : Name.IsWord name)
    (plain : wrapper.IsPlain) :
    (wrapper.rows.map fun row => occurrences (callMark name) row.content).sum =
      if wrapper.callee = name then 1 else 0 := by
  cases wrapper with
  | constructor callee => exact occurrences_constructorRows word plain
  | method binding => exact binding.occurrences_rows word plain

theorem Wrapper.occurrences_indent_text {wrapper : Wrapper} (word : Name.IsWord name)
    (plain : wrapper.IsPlain) :
    occurrences (callMark name) (Text.indent 1 wrapper.text) =
      if wrapper.callee = name then 1 else 0 := by
  have raised : (wrapper.rows.map (Row.raise 1)).map
      (fun row => occurrences (callMark name) row.content) =
        wrapper.rows.map fun row => occurrences (callMark name) row.content :=
    List.map_map
  rw [Wrapper.indent_text plain, Row.occurrences_flatMap_text word, raised, occurrences_rows word plain]

theorem occurrences_blocks {α : Type} (text : α → Text) (callees : α → List Text)
    (word : Name.IsWord name) {blocks : List α}
    (each : ∀ block ∈ blocks, occurrences (callMark name) (text block) = (callees block).count name) :
    occurrences (callMark name) (("\n" : Text).intercalate (blocks.map text)) =
      (blocks.flatMap callees).count name := by
  have foreign : '\n' ∉ callMark name := notMem_callMark word (by decide)
  rw [occurrences_intercalate_newline callMark_nonempty foreign, List.map_map, List.count_flatMap]
  exact congrArg List.sum (List.map_congr_left each)

/-- A header that ends its line and holds no call can be left out. -/
theorem occurrences_append_of_header {header rest : Text} (word : Name.IsWord name)
    (ends : header.getLast? = some '\n') (silent : ':' ∉ header) :
    occurrences (callMark name) (header ++ rest) = occurrences (callMark name) rest := by
  rw [occurrences_append_of_break word ends (by decide), occurrences_silent (by decide) silent,
    Nat.zero_add]

def Definition.callees (definition : Definition) : List Text :=
  definition.wrappers.map Wrapper.callee

theorem Definition.occurrences_text {definition : Definition} (word : Name.IsWord name)
    (plain : definition.IsPlain) :
    occurrences (callMark name) definition.text = definition.callees.count name := by
  have silent : ':' ∉ "define_object!(" ++ definition.object ++ ");\n\n" ++ "impl " ++
      definition.object ++ " \x7b\n" := by
    have object : ':' ∉ definition.object := plain.object.notMem (by decide)
    simp only [List.mem_append, not_or]
    refine ⟨⟨⟨⟨⟨?_, object⟩, ?_⟩, ?_⟩, object⟩, ?_⟩ <;> decide
  have ends : ("define_object!(" ++ definition.object ++ ");\n\n" ++ "impl " ++
      definition.object ++ " \x7b\n" : Text).getLast? = some '\n' := by
    rw [List.getLast?_append_of_ne_nil _ (by decide)]
    rfl
  have each : ∀ wrapper ∈ definition.wrappers,
      occurrences (callMark name) (Text.indent 1 wrapper.text) = [wrapper.callee].count name := by
    intro wrapper listed
    rw [wrapper.occurrences_indent_text word (plain.wrappers wrapper listed), List.count_singleton]
    simp only [beq_iff_eq]
  have body := occurrences_blocks _ _ word each
  rw [← List.map_eq_flatMap] at body
  unfold text
  rw [occurrences_append_gaps word (by decide), occurrences_append_of_header word ends silent,
    body, callees]

theorem occurrences_moduleText {definitions : List Definition} (word : Name.IsWord name)
    (plain : ∀ definition ∈ definitions, definition.IsPlain) :
    occurrences (callMark name) (moduleText definitions) =
      (definitions.flatMap Definition.callees).count name := by
  unfold moduleText
  rw [occurrences_append_of_header word (by decide) (by decide)]
  exact occurrences_blocks Definition.text Definition.callees word fun definition listed =>
    definition.occurrences_text word (plain definition listed)

end Mark

end WidgetBindings
