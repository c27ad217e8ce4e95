import WidgetBindings.Proofs.MethodText

namespace WidgetBindings

/-! What can be read back from the text of a wrapper.

A method's name ends at the bracket behind it, and its declarations are parted by commas, which none
of them holds. So the first line already says all but the native function, which is then the only
thing that is left to differ.
-/

/-- Cut at its commas a list gives its parts again, each but the first with the blank in front. -/
theorem splitOn_commaSeparated {part : Text} {more : List Text}
    (free : ∀ item ∈ part :: more, ',' ∉ item) :
    (commaSeparated (part :: more)).splitOn ',' = part :: more.map (' ' :: ·) := by
  obtain ⟨partFree, moreFree⟩ := List.forall_mem_cons.mp free
  induction more generalizing part with
  | nil =>
      have single : commaSeparated [part] = part := by simp [commaSeparated]
      rw [single, List.splitOn_eq_singleton partFree, List.map_nil]
  | cons next more ih =>
      have opened : commaSeparated (part :: next :: more) =
          part ++ ',' :: (' ' :: commaSeparated (next :: more)) := by
        unfold commaSeparated
        rw [List.intercalate_cons_cons, List.append_assoc]
        rfl
      have blank : ' ' :: commaSeparated (next :: more) =
          commaSeparated ((' ' :: next) :: more) := by
        cases more with
        | nil => simp [commaSeparated]
        | cons => simp [commaSeparated, List.intercalate_cons_cons]
      obtain ⟨nextFree, laterFree⟩ := List.forall_mem_cons.mp moreFree
      have blankFree : ',' ∉ ' ' :: next := by simp [nextFree]
      have later := ih (List.forall_mem_cons.mpr ⟨blankFree, laterFree⟩) blankFree laterFree
      rw [opened, List.splitOn_append_cons_self_of_not_mem partFree, blank, later, List.map_cons]

/-- Parts without a comma can be read back, as long as there is one. -/
theorem commaSeparated_inj {part other : Text} {first second : List Text}
    (firstFree : ∀ item ∈ part :: first, ',' ∉ item)
    (secondFree : ∀ item ∈ other :: second, ',' ∉ item)
    (same : commaSeparated (part :: first) = commaSeparated (other :: second)) :
    part = other ∧ first = second := by
  have parts := congrArg (List.splitOn ',') same
  rw [splitOn_commaSeparated firstFree, splitOn_commaSeparated secondFree] at parts
  obtain ⟨head, tail⟩ := List.cons.inj parts
  exact ⟨head, List.map_injective_iff.mpr (List.cons_injective (a := ' ')) tail⟩

theorem nativeCall_left_inj {callee other : Text} {operands : List Text} :
    nativeCall callee operands = nativeCall other operands ↔ callee = other := by
  unfold nativeCall
  simp only [List.append_left_inj, List.append_right_inj]

theorem constructorText_inj {callee other : Text} :
    constructorText callee = constructorText other ↔ callee = other := by
  unfold constructorText Text.line
  simp only [List.append_left_inj, List.append_right_inj, nativeCall_left_inj]

theorem RustType.text_injective : Function.Injective RustType.text := by
  intro first second same
  cases first <;> cases second <;> first | rfl | exact absurd same (by decide)

theorem Receiver.text_injective : Function.Injective Receiver.text := by
  intro first second same
  cases first <;> cases second <;> first | rfl | exact absurd same (by decide)

namespace Argument

theorem eq_of_declaration_eq {first second : Argument} (firstWord : Name.IsWord first.ident)
    (secondWord : Name.IsWord second.ident) (same : first.declaration = second.declaration) :
    first = second := by
  have opened (argument : Argument) :
      argument.declaration = argument.ident ++ ':' :: ' ' :: argument.type.text := by
    unfold declaration
    rw [List.append_assoc]
    rfl
  rw [opened, opened] at same
  obtain ⟨ident, behind⟩ := eq_of_append_delimiter (firstWord.notMem (by decide))
    (secondWord.notMem (by decide)) same
  have type := RustType.text_injective (List.cons.inj behind).2
  cases first
  cases second
  exact congrArg₂ Argument.mk ident type

theorem eq_of_declarations_eq {first second : List Argument}
    (firstWords : ∀ argument ∈ first, Name.IsWord argument.ident)
    (secondWords : ∀ argument ∈ second, Name.IsWord argument.ident)
    (same : first.map declaration = second.map declaration) : first = second := by
  induction first generalizing second with
  | nil => exact (List.map_eq_nil_iff.mp same.symm).symm
  | cons argument rest ih =>
      cases second with
      | nil => cases same
      | cons other others =>
          obtain ⟨word, words⟩ := List.forall_mem_cons.mp firstWords
          obtain ⟨otherWord, otherWords⟩ := List.forall_mem_cons.mp secondWords
          obtain ⟨head, tail⟩ := List.cons.inj same
          rw [eq_of_declaration_eq word otherWord head, ih words otherWords tail]

end Argument

namespace Method

variable {first second method : Method}

/-- What is declared holds no punctuation but its own. -/
theorem notMem_declarations {char : Char}
    (idents : ∀ argument ∈ method.arguments, Name.IsWord argument.ident)
    (foreign : Name.isWordChar char = false) (outside : char ∉ (": &" : Text)) :
    ∀ part ∈ method.receiver.text :: method.arguments.map Argument.declaration, char ∉ part := by
  have receiver : method.receiver.text.all fun inside =>
      Name.isWordChar inside || (": &" : Text).contains inside := by
    cases method.receiver <;> decide
  refine List.forall_mem_cons.mpr ⟨Name.notMem_of_all receiver foreign outside, ?_⟩
  exact List.forall_mem_map.mpr fun argument declared =>
    Argument.notMem_declaration (idents argument declared) foreign outside

/-- The first line says everything but the native function. -/
theorem eq_of_signature_eq (firstPlain : first.IsPlain) (secondPlain : second.IsPlain)
    (same : first.signature = second.signature) :
    first.name = second.name ∧ first.receiver = second.receiver ∧
      first.arguments = second.arguments := by
  have opened (method : Method) : method.signature = "pub fn " ++ (method.name ++ '(' ::
      (commaSeparated (method.receiver.text :: method.arguments.map Argument.declaration) ++
        ") -> crate::LvResult<()> \x7b")) := by
    unfold signature
    simp only [List.append_assoc]
    rfl
  rw [opened, opened] at same
  obtain ⟨name, behind⟩ := eq_of_append_delimiter (firstPlain.name.notMem (by decide))
    (secondPlain.name.notMem (by decide)) (List.append_cancel_left same)
  have undivided (method : Method) (plain : method.IsPlain) :
      ∀ part ∈ method.receiver.text :: method.arguments.map Argument.declaration, ',' ∉ part :=
    notMem_declarations plain.idents (by decide) (by decide)
  obtain ⟨receiver, declarations⟩ := commaSeparated_inj (undivided first firstPlain)
    (undivided second secondPlain) (List.append_cancel_right behind)
  exact ⟨name, Receiver.text_injective receiver,
    Argument.eq_of_declarations_eq firstPlain.idents secondPlain.idents declarations⟩

theorem eq_of_text_eq (firstPlain : first.IsPlain) (secondPlain : second.IsPlain)
    (same : first.text = second.text) : first = second := by
  have line (method : Method) (plain : method.IsPlain) :
      '\n' ∉ method.signature ∧ ∃ rest, method.text = method.signature ++ '\n' :: rest := by
    refine ⟨fun member => absurd (isCode_signature plain '\n' member) (by decide), ?_⟩
    unfold text Text.line
    simp only [List.append_assoc]
    exact ⟨_, rfl⟩
  obtain ⟨firstLine, firstRest, firstText⟩ := line first firstPlain
  obtain ⟨secondLine, secondRest, secondText⟩ := line second secondPlain
  have opening := (eq_of_append_delimiter firstLine secondLine
    (firstText.symm.trans (same.trans secondText))).1
  obtain ⟨name, receiver, arguments⟩ := eq_of_signature_eq firstPlain secondPlain opening
  obtain ⟨firstName, firstReceiver, firstArguments, firstCallee⟩ := first
  obtain ⟨secondName, secondReceiver, secondArguments, secondCallee⟩ := second
  obtain rfl : firstName = secondName := name
  obtain rfl : firstReceiver = secondReceiver := receiver
  obtain rfl : firstArguments = secondArguments := arguments
  unfold text signature Text.line at same
  simp only [List.append_left_inj, List.append_right_inj, nativeCall_left_inj] at same
  rw [same]

end Method

theorem constructorText_ne_text {callee : Text} {method : Method} (word : Name.IsWord method.name) :
    constructorText callee ≠ method.text := by
  intro same
  have opens := constructorText_opens callee
  rw [same] at opens
  exact Method.not_opens word opens

/-- No two wrappers have one text. -/
theorem Wrapper.text_inj {first second : Wrapper} (firstPlain : first.IsPlain)
    (secondPlain : second.IsPlain) : first.text = second.text ↔ first = second := by
  refine Iff.intro (fun same => ?_) (congrArg text)
  cases first with
  | constructor callee =>
      cases second with
      | constructor other => rw [constructorText_inj.mp same]
      | method binding => exact absurd same (constructorText_ne_text secondPlain.name)
  | method binding =>
      cases second with
      | constructor callee => exact absurd same.symm (constructorText_ne_text firstPlain.name)
      | method other => rw [Method.eq_of_text_eq firstPlain secondPlain same]

namespace CType

/-- The word for a type in Rust. A spelling that ends as a string is not looked up. -/
def word? (type : CType) : Option Text :=
  if ("char *" : Text) <:+ type.spelling then some "&str" else primitiveWords.lookup type.spelling

theorem word?_eq (type : CType) : type.word? = type.rustType?.map RustType.text := by
  have listed : primitiveWords.lookup type.spelling =
      (primitiveTypes.lookup type.spelling).map RustType.text := by
    rw [primitiveWords_eq, List.lookup_eq_findSome?, List.lookup_eq_findSome?, List.findSome?_map,
      List.map_findSome?]
    refine congrArg (List.findSome? · primitiveTypes) (funext fun entry => ?_)
    rw [Function.comp_apply, Function.comp_apply, apply_ite (Option.map RustType.text)]
    rfl
  unfold word? rustType?
  by_cases ends : type.isString = true
  · rw [if_pos (isString_iff.mp ends), if_pos ends]
    rfl
  · rw [if_neg (mt isString_iff.mpr ends), if_neg ends, listed]

/-- Two receivers are the same exactly if both are qualified, or neither is. -/
theorem receiver_eq_iff {type other : CType} :
    type.receiver = other.receiver ↔
      (("const " : Text) <+: type.spelling ↔ ("const " : Text) <+: other.spelling) := by
  rw [← isConst_iff, ← isConst_iff]
  unfold receiver
  cases type.isConst <;> cases other.isConst <;> decide

end CType

/-- What a parameter becomes: its identifier, and the word for its type in Rust. -/
def Param.mapped (param : Param) : Text × Option Text :=
  (Name.escape param.name, param.type.word?)

theorem map_mapped_eq {params : List Param} {arguments : List Argument}
    (found : List.Forall₂ (fun param argument => param.argument = .ok argument) params arguments) :
    params.map Param.mapped =
      arguments.map fun argument => (argument.ident, some argument.type.text) := by
  rw [← List.forall₂_eq_eq_eq, List.forall₂_map_left_iff, List.forall₂_map_right_iff]
  refine found.imp fun param argument done => ?_
  obtain ⟨type, ident⟩ := Param.argument_eq_ok_iff.mp done
  rw [Param.mapped, CType.word?_eq, type, ident, Option.map_some]

theorem arguments_eq_iff {params others : List Param} {arguments otherArguments : List Argument}
    (found : List.Forall₂ (fun param argument => param.argument = .ok argument) params arguments)
    (otherFound : List.Forall₂ (fun param argument => param.argument = .ok argument) others
      otherArguments) :
    arguments = otherArguments ↔ params.map Param.mapped = others.map Param.mapped := by
  have injective : Function.Injective fun argument : Argument =>
      (argument.ident, some argument.type.text) := by
    intro first second same
    obtain ⟨ident, type⟩ := Prod.mk.inj same
    cases first
    cases second
    exact congrArg₂ Argument.mk ident (RustType.text_injective (Option.some.inj type))
  rw [map_mapped_eq found, map_mapped_eq otherFound]
  exact (List.map_injective_iff.mpr injective).eq_iff.symm

namespace Func

variable {firstLib secondLib firstWidget secondWidget firstText secondText : Text}
  {first second : Func}

/-- Two functions make the same method of themselves. -/
structure SameMethod (firstLib secondLib firstWidget secondWidget : Text) (first second : Func) :
    Prop where
  callee : first.name = second.name
  name : Name.escape (Name.withinWidget firstLib firstWidget first.name) =
    Name.escape (Name.withinWidget secondLib secondWidget second.name)
  /-- Both receivers are qualified, or neither is. -/
  receiver : ∃ receiver other, first.params.head? = some receiver ∧
    second.params.head? = some other ∧
    (("const " : Text) <+: receiver.type.spelling ↔ ("const " : Text) <+: other.type.spelling)
  arguments : first.params.tail.map Param.mapped = second.params.tail.map Param.mapped

theorem method_eq_iff {binding other : Method} (found : first.method firstLib firstWidget = .ok binding)
    (otherFound : second.method secondLib secondWidget = .ok other) :
    binding = other ↔ SameMethod firstLib secondLib firstWidget secondWidget first second := by
  obtain ⟨receiver, params, arguments, split, -, mapped, rfl⟩ := method_eq_ok_iff.mp found
  obtain ⟨otherReceiver, others, otherArguments, otherSplit, -, otherMapped, rfl⟩ :=
    method_eq_ok_iff.mp otherFound
  have sameArguments := arguments_eq_iff mapped otherMapped
  refine Iff.intro (fun same => ?_) (fun ⟨callee, name, receivers, arguments⟩ => ?_)
  · obtain ⟨name, receivers, arguments, callee⟩ := Method.mk.inj same
    refine ⟨callee, name, ?_, ?_⟩
    · rw [split, otherSplit]
      exact ⟨receiver, otherReceiver, rfl, rfl, CType.receiver_eq_iff.mp receivers⟩
    · rw [split, otherSplit]
      exact sameArguments.mp arguments
  · simp only [split, otherSplit, List.head?_cons, Option.some.injEq] at receivers
    obtain ⟨_, _, rfl, rfl, qualified⟩ := receivers
    rw [split, otherSplit] at arguments
    rw [name, CType.receiver_eq_iff.mpr qualified, sameArguments.mpr arguments, callee]

/-- Two functions have one text only if they are constructors of one native function, or if they
call one native function from methods that agree in their names, receivers and arguments. -/
theorem renders_eq_iff (firstIdentifiers : first.HasIdentifiers)
    (secondIdentifiers : second.HasIdentifiers)
    (firstRenders : first.Renders firstLib firstWidget firstText)
    (secondRenders : second.Renders secondLib secondWidget secondText) :
    firstText = secondText ↔
      (Name.withinWidget firstLib firstWidget first.name = ("create" : Text) ∧
        Name.withinWidget secondLib secondWidget second.name = ("create" : Text) ∧
        first.name = second.name) ∨
      (Name.withinWidget firstLib firstWidget first.name ≠ ("create" : Text) ∧
        Name.withinWidget secondLib secondWidget second.name ≠ ("create" : Text) ∧
        SameMethod firstLib secondLib firstWidget secondWidget first second) := by
  obtain ⟨wrapper, found, rfl⟩ := renders_iff.mp firstRenders
  obtain ⟨other, otherFound, rfl⟩ := renders_iff.mp secondRenders
  rw [Wrapper.text_inj (wrapper_plain firstIdentifiers found)
    (wrapper_plain secondIdentifiers otherFound)]
  rcases wrapper_eq_ok_iff.mp found with ⟨create, rfl⟩ | ⟨method, binding, bound, rfl⟩ <;>
  rcases wrapper_eq_ok_iff.mp otherFound with
    ⟨otherCreate, rfl⟩ | ⟨otherMethod, otherBinding, otherBound, rfl⟩
  · simp only [create, otherCreate, Wrapper.constructor.injEq, true_and, ne_eq, not_true_eq_false,
      false_and, or_false]
  · simp only [create, otherMethod, reduceCtorEq, ne_eq, not_true_eq_false, false_and, and_false,
      or_self]
  · simp only [method, otherCreate, reduceCtorEq, ne_eq, not_true_eq_false, false_and, and_false,
      or_self]
  · simp only [method, otherMethod, Wrapper.method.injEq, method_eq_iff bound otherBound, false_and,
      ne_eq, not_false_eq_true, true_and, false_or]

/-- The prefix, the widget and the spellings of types leave no trace in the text of a method, but
for the qualifier of the receiver. -/
theorem renders_eq_iff_label :
    let params (receiver text : Text) : List Param := [⟨"label", ⟨receiver⟩⟩, ⟨"text", ⟨text⟩⟩]
    let first : Func :=
      { name := "lv_set_text", params := params "const lv_obj_t *" "char *" }
    let second : Func :=
      { name := "lv_set_text", params := params "const struct lv_obj_t *" "const char *" }
    let third : Func :=
      { name := "lv_set_text", params := params "struct lv_obj_t *" "const char *" }
    first.HasIdentifiers ∧ second.HasIdentifiers ∧ third.HasIdentifiers ∧
      ∃ firstText secondText thirdText, first.Renders "lv_" "label" firstText ∧
        second.Renders "tft_" "btn" secondText ∧ third.Renders "tft_" "btn" thirdText ∧
        firstText = secondText ∧ secondText ≠ thirdText := by
  intro params first second third
  have firstIdentifiers : first.HasIdentifiers := by decide
  have secondIdentifiers : second.HasIdentifiers := by decide
  have thirdIdentifiers : third.HasIdentifiers := by decide
  have renders (lib widget : Text) (func : Func) (called : func.params ≠ [])
      (procedure : func.result = none)
      (supported : ∀ param ∈ func.params.tail, param.type.IsSupported) :
      ∃ text, func.Renders lib widget text := by
    obtain ⟨wrapper, found⟩ := exists_wrapper_iff.mpr (.inr ⟨called, procedure, supported⟩)
    exact ⟨wrapper.text, renders_iff.mpr ⟨wrapper, found, rfl⟩⟩
  obtain ⟨firstText, firstRenders⟩ := renders "lv_" "label" first (by decide) rfl (by decide)
  obtain ⟨secondText, secondRenders⟩ := renders "tft_" "btn" second (by decide) rfl (by decide)
  obtain ⟨thirdText, thirdRenders⟩ := renders "tft_" "btn" third (by decide) rfl (by decide)
  refine ⟨firstIdentifiers, secondIdentifiers, thirdIdentifiers, firstText, secondText, thirdText,
    firstRenders, secondRenders, thirdRenders, ?_, fun same => ?_⟩
  · exact (renders_eq_iff firstIdentifiers secondIdentifiers firstRenders secondRenders).mpr
      (.inr ⟨by decide, by decide, by decide, by decide, ⟨_, _, rfl, rfl, by decide⟩, by decide⟩)
  · rcases (renders_eq_iff secondIdentifiers thirdIdentifiers secondRenders thirdRenders).mp same
      with ⟨create, -⟩ | ⟨-, -, methods⟩
    · exact absurd create (by decide)
    · obtain ⟨receiver, other, found, otherFound, qualified⟩ := methods.receiver
      cases found
      cases otherFound
      exact absurd qualified (by decide)

end Func

end WidgetBindings
