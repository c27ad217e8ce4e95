import WidgetBindings.Proofs.Identifier
import WidgetBindings.Proofs.ImplBlock
import WidgetBindings.Proofs.ObjectTypes

namespace WidgetBindings

/-! Which written names are identifiers of Rust.

Escaping knows all reserved words, but it takes any other name as it is, and type names are not
escaped at all. A name is therefore illegal where it is no identifier behind the widget's stem,
where it is a lone underscore, and where a type name begins with a digit or is `Self`.
-/

namespace Name

/-- The reserved words of the 2018 edition: keywords in use, and words kept for later. -/
def reservedWords : List Text :=
  (["abstract", "as", "async", "await", "become", "box", "break", "const", "continue", "crate",
    "do", "dyn", "else", "enum", "extern", "false", "final", "fn", "for", "if", "impl", "in",
    "let", "loop", "macro", "match", "mod", "move", "mut", "override", "priv", "pub", "ref",
    "return", "Self", "self", "static", "struct", "super", "trait", "true", "try", "type",
    "typeof", "unsafe", "unsized", "use", "virtual", "where", "while", "yield"] : List Text)

/-- Words that stand for a path even behind the mark of a raw identifier. -/
def pathWords : List Text :=
  ["self", "Self", "super", "crate"]

/-- A raw identifier, or a C identifier that is neither reserved nor the lone underscore. -/
def IsLegal (name : Text) : Prop :=
  (∃ word ∈ reservedWords, word ∉ pathWords ∧ name = "r#" ++ word) ∨
    isIdentifier name = true ∧ name ∉ reservedWords ∧ name ≠ ("_" : Text)

instance (name : Text) : Decidable (IsLegal name) :=
  inferInstanceAs (Decidable (_ ∨ _))

/-- A name that stays legal in every place where it is written as it is or escaped. -/
def IsSpeakable (name : Text) : Prop :=
  isIdentifier name = true ∧ name ≠ ("_" : Text)

instance (name : Text) : Decidable (IsSpeakable name) :=
  inferInstanceAs (Decidable (_ ∧ _))

/-- A widget's name that gives a type name. -/
def NamesType (widget : Text) : Prop :=
  isIdentifier widget = true ∧ widget ≠ ("self" : Text) ∧ widget ≠ ("Self" : Text)

instance (widget : Text) : Decidable (NamesType widget) :=
  inferInstanceAs (Decidable (_ ∧ _))

variable {name : Text}

theorem mem_keywords_iff : name ∈ keywords ↔ name ∈ reservedWords :=
  ⟨fun member => (by decide : keywords ⊆ reservedWords) member,
    fun member => (by decide : reservedWords ⊆ keywords) member⟩

theorem speakable_of_reserved (reserved : name ∈ reservedWords) : IsSpeakable name :=
  (by decide : ∀ word ∈ reservedWords, IsSpeakable word) name reserved

theorem isLegal_iff_of_plain (plain : '#' ∉ name) : IsLegal name ↔
    isIdentifier name = true ∧ name ∉ reservedWords ∧ name ≠ ("_" : Text) := by
  refine or_iff_right fun ⟨word, _, _, same⟩ => ?_
  exact raw_ne plain same.symm

/-- Escaping makes a name legal unless the name cannot be spoken in the first place. -/
theorem isLegal_escape_iff (plain : '#' ∉ name) : IsLegal (escape name) ↔ IsSpeakable name := by
  rcases escape_cases name with ⟨suffixed, shape⟩ | ⟨reserved, raw, shape⟩ | ⟨free, shape⟩
  · have legal : ∀ word ∈ notRaw, IsLegal (word ++ "_") ∧ IsSpeakable word := by decide
    rw [shape]
    exact iff_of_true (legal name suffixed).1 (legal name suffixed).2
  · rw [mem_keywords_iff] at reserved
    rw [shape]
    exact iff_of_true (.inl ⟨name, reserved, raw, rfl⟩) (speakable_of_reserved reserved)
  · rw [mem_keywords_iff] at free
    rw [shape, isLegal_iff_of_plain plain, IsSpeakable]
    exact ⟨fun ⟨identifier, _, named⟩ => ⟨identifier, named⟩,
      fun ⟨identifier, named⟩ => ⟨identifier, free, named⟩⟩

theorem isLegal_blockName_iff (plain : '#' ∉ name) :
    IsLegal (blockName name) ↔ IsSpeakable name := by
  unfold blockName
  by_cases create : name = ("create" : Text)
  · rw [if_pos create, create]
    exact iff_of_true (by decide) (by decide)
  · rw [if_neg create, isLegal_escape_iff plain]

theorem isIdentifierStart_toUpper {char : Char} (word : isWordChar char = true) :
    isIdentifierStart char.toUpper = isIdentifierStart char :=
  Text.charCases char (lt_of_isWordChar word) (by decide)

theorem isIdentifier_pascal (word : IsWord name) (plain : '_' ∉ name) :
    isIdentifier (pascal name) = isIdentifier name := by
  rw [pascal_eq_modifyHead word plain]
  cases name with
  | nil => rfl
  | cons char rest =>
      simp only [List.modifyHead_cons, isIdentifier,
        isIdentifierStart_toUpper (word char List.mem_cons_self)]

theorem pascal_reserved_iff (word : IsWord name) (plain : '_' ∉ name) :
    pascal name ∈ reservedWords ↔ name = ("self" : Text) ∨ name = ("Self" : Text) := by
  refine Iff.intro (fun reserved => ?_) ?_
  · have raised : (pascal name).modifyHead Char.toUpper = pascal name := by
      rw [← pascal_eq_modifyHead word.pascal (underscore_notMem_pascal name), pascal_pascal]
    have only : ∀ word ∈ reservedWords, word.modifyHead Char.toUpper = word →
        word = ("Self" : Text) := by decide
    have origin := (pascal_eq_cons_iff word plain (by decide) (by decide)).mp
      (only _ reserved raised)
    exact origin.symm
  · intro origin
    rcases origin with rfl | rfl <;> decide

theorem mark_notMem_pascal (characters : ∀ char ∈ name, isIdentifierChar char = true)
    (plain : '_' ∉ name) : '#' ∉ pascal name := by
  have word := isWord_of_forall_mem characters
  rw [pascal_eq_modifyHead word plain]
  cases name with
  | nil => exact List.not_mem_nil
  | cons char rest =>
      rw [List.modifyHead_cons, List.mem_cons, not_or]
      refine ⟨fun initial => ?_, fun member => ?_⟩
      · have origin := eq_or_eq_toLower_toUpper (word char List.mem_cons_self)
        rw [← initial] at origin
        have mark : char = '#' := origin.elim id id
        exact absurd (characters char List.mem_cons_self) (by rw [mark]; decide)
      · exact absurd (characters '#' (List.mem_cons_of_mem _ member)) (by decide)

/-- A type name is legal unless it begins with a digit or is the reserved `Self`. -/
theorem isLegal_pascal_iff (characters : ∀ char ∈ name, isIdentifierChar char = true)
    (plain : '_' ∉ name) : IsLegal (pascal name) ↔ NamesType name := by
  have word := isWord_of_forall_mem characters
  have named : pascal name ≠ ("_" : Text) := by
    intro lone
    have origin := (pascal_eq_cons_iff word plain (by decide) (by decide)).mp lone
    have same : name = ("_" : Text) := origin.elim id id
    exact plain (by simp [same])
  rw [isLegal_iff_of_plain (mark_notMem_pascal characters plain),
    isIdentifier_pascal word plain, pascal_reserved_iff word plain, not_or, NamesType]
  exact ⟨fun ⟨identifier, other, _⟩ => ⟨identifier, other⟩,
    fun ⟨identifier, other⟩ => ⟨identifier, other, named⟩⟩

end Name

namespace Wrapper

/-- The name of the function and those of its parameters. -/
def parameters : Wrapper → List Text
  | .constructor _ => ["parent"]
  | .method binding => binding.arguments.map Argument.ident

structure IsLegal (wrapper : Wrapper) : Prop where
  name : Name.IsLegal (fnName wrapper.text)
  parameters : ∀ ident ∈ wrapper.parameters, Name.IsLegal ident

end Wrapper

structure Definition.IsLegal (definition : Definition) : Prop where
  object : Name.IsLegal definition.object
  wrappers : ∀ wrapper ∈ definition.wrappers, wrapper.IsLegal

namespace Func

variable {lib widget : Text} {func : Func}

/-- The functions that are written as methods. -/
def BecomesMethod (lib widget : Text) (func : Func) : Prop :=
  Name.withinWidget lib widget func.name ≠ ("create" : Text) ∧ func.params ≠ [] ∧
    func.result = none ∧ ∀ param ∈ func.params.tail, param.type.IsSupported

instance : Decidable (func.BecomesMethod lib widget) :=
  inferInstanceAs (Decidable (_ ∧ _))

/-- The names that a method is made of can all be spoken. -/
def IsSpeakable (lib widget : Text) (func : Func) : Prop :=
  Name.IsSpeakable (Name.withinWidget lib widget func.name) ∧
    ∀ param ∈ func.params.tail, param.name ≠ ("_" : Text)

instance : Decidable (func.IsSpeakable lib widget) :=
  inferInstanceAs (Decidable (_ ∧ _))

theorem becomesMethod_iff :
    func.BecomesMethod lib widget ↔
      ∃ binding, func.wrapper lib widget = .ok (.method binding) := by
  simp only [wrapper_eq_method_iff, exists_and_left, exists_method_iff]
  exact Iff.rfl

theorem legal_argument_iff {param : Param} {argument : Argument}
    (identifier : Name.isIdentifier param.name = true) (mapped : param.argument = .ok argument) :
    Name.IsLegal argument.ident ↔ param.name ≠ ("_" : Text) := by
  rw [(Param.argument_eq_ok_iff.mp mapped).2,
    Name.isLegal_escape_iff (Name.mark_notMem identifier), Name.IsSpeakable]
  exact and_iff_right identifier

theorem legal_arguments_iff {params : List Param} {arguments : List Argument}
    (mapped : List.Forall₂ (fun param argument => param.argument = .ok argument) params arguments)
    (identifiers : ∀ param ∈ params, Name.isIdentifier param.name = true) :
    (∀ argument ∈ arguments, Name.IsLegal argument.ident) ↔
      ∀ param ∈ params, param.name ≠ ("_" : Text) := by
  induction mapped with
  | nil => exact iff_of_true (fun _ => nofun) (fun _ => nofun)
  | cons head _ ih =>
      obtain ⟨identifier, later⟩ := List.forall_mem_cons.mp identifiers
      rw [List.forall_mem_cons, List.forall_mem_cons, legal_argument_iff identifier head, ih later]

theorem legal_fnName_iff {wrapper : Wrapper} (identifier : Name.isIdentifier func.name = true)
    (found : func.wrapper lib widget = .ok wrapper) :
    Name.IsLegal (fnName wrapper.text) ↔
      Name.IsSpeakable (Name.withinWidget lib widget func.name) := by
  have plain : '#' ∉ Name.withinWidget lib widget func.name := fun member =>
    Name.mark_notMem identifier ((Name.withinWidget_suffix lib widget func.name).subset member)
  rw [func.fnName_of_wrapper (Name.isWord_of_isIdentifier identifier) found,
    Name.isLegal_blockName_iff plain]

theorem legal_method_iff {binding : Method} (identifiers : func.HasIdentifiers)
    (found : func.wrapper lib widget = .ok (.method binding)) :
    (Wrapper.method binding).IsLegal ↔ func.IsSpeakable lib widget := by
  have name := legal_fnName_iff identifiers.name found
  have parameters : (∀ ident ∈ (Wrapper.method binding).parameters, Name.IsLegal ident) ↔
      ∀ param ∈ func.params.tail, param.name ≠ ("_" : Text) := by
    obtain ⟨receiver, params, arguments, split, -, mapped, rfl⟩ :=
      method_eq_ok_iff.mp (wrapper_eq_method_iff.mp found).2
    rw [Wrapper.parameters, List.forall_mem_map, split, List.tail_cons]
    exact legal_arguments_iff mapped fun param member =>
      identifiers.params param (by simp [split, member])
  exact ⟨fun legal => ⟨name.mp legal.name, parameters.mp legal.parameters⟩,
    fun spoken => ⟨name.mpr spoken.1, parameters.mpr spoken.2⟩⟩

theorem legal_constructor (callee : Text) : (Wrapper.constructor callee).IsLegal := by
  refine ⟨?_, List.forall_mem_singleton.mpr (by decide)⟩
  rw [Wrapper.text, fnName_constructorText]
  decide

theorem legal_wrapper_iff (identifiers : func.HasIdentifiers) :
    (∀ wrapper, func.wrapper lib widget = .ok wrapper → wrapper.IsLegal) ↔
      (func.BecomesMethod lib widget → func.IsSpeakable lib widget) := by
  refine Iff.intro ?_ ?_
  · intro legal becomes
    obtain ⟨binding, found⟩ := becomesMethod_iff.mp becomes
    exact (legal_method_iff identifiers found).mp (legal _ found)
  · intro speakable wrapper found
    cases wrapper with
    | constructor callee => exact legal_constructor callee
    | method binding =>
        exact (legal_method_iff identifiers found).mpr
          (speakable (becomesMethod_iff.mpr ⟨binding, found⟩))

end Func

theorem Widget.legal_definition_iff {lib : Text} {widget : Widget}
    (characters : ∀ char ∈ widget.name, Name.isIdentifierChar char = true)
    (plain : '_' ∉ widget.name) (identifiers : ∀ func ∈ widget.methods, func.HasIdentifiers) :
    (widget.definition lib).IsLegal ↔
      Name.NamesType widget.name ∧ ∀ func ∈ widget.methods,
        func.BecomesMethod lib widget.name → func.IsSpeakable lib widget.name := by
  have wrappers : (∀ wrapper ∈ (widget.definition lib).wrappers, wrapper.IsLegal) ↔
      ∀ func ∈ widget.methods, func.BecomesMethod lib widget.name →
        func.IsSpeakable lib widget.name := by
    rw [definition, List.forall_mem_filterMap]
    refine forall₂_congr fun func method => ?_
    rw [← func.legal_wrapper_iff (identifiers func method)]
    simp only [toOption_eq_some_iff]
  rw [← Name.isLegal_pascal_iff characters plain, ← wrappers]
  exact ⟨fun legal => ⟨legal.object, legal.wrappers⟩, fun legal => ⟨legal.1, legal.2⟩⟩

/-- The written names are identifiers of Rust exactly if every widget's name gives a type name and
every method can be spoken. -/
theorem written_legal_iff {lib : Text} {separated : Bool} {functions : List Func}
    (identifiers : ∀ func ∈ functions, func.HasIdentifiers) :
    let widgets := (extract lib separated functions).value
    (∀ definition ∈ (definitions lib widgets).value, definition.IsLegal) ↔
      ∀ widget ∈ widgets, widget.name ≠ ("obj" : Text) →
        Name.NamesType widget.name ∧ ∀ func ∈ widget.methods,
          func.BecomesMethod lib widget.name → func.IsSpeakable lib widget.name := by
  intro widgets
  have each {widget : Widget} (extracted : widget ∈ widgets) :
      (widget.definition lib).IsLegal ↔
        Name.NamesType widget.name ∧ ∀ func ∈ widget.methods,
          func.BecomesMethod lib widget.name → func.IsSpeakable lib widget.name := by
    obtain ⟨characters, plain⟩ :=
      characters_of_mem_extract (fun func listed => (identifiers func listed).name) extracted
    exact Widget.legal_definition_iff characters plain fun func method =>
      identifiers func ((mem_methods_iff extracted).mp method).1
  refine Iff.intro (fun legal widget extracted other => ?_) (fun names definition member => ?_)
  · exact (each extracted).mp
      (legal _ (mem_definitions_iff.mpr ⟨widget, extracted, other, rfl⟩))
  · obtain ⟨widget, extracted, other, rfl⟩ := mem_definitions_iff.mp member
    exact (each extracted).mpr (names widget extracted other)

theorem written_legal_button :
    (∀ func ∈ buttonApi, func.HasIdentifiers) ∧
      ∀ definition ∈ (definitions "lv_" (extract "lv_" false buttonApi).value).value,
        definition.IsLegal :=
  ⟨by decide, (written_legal_iff (by decide)).mpr (by decide)⟩

/-- A widget called `self` is defined as the reserved `Self`. -/
theorem written_self_illegal :
    (∀ func ∈ [createFunc "self"], func.HasIdentifiers) ∧
      ∃ definition ∈ (definitions "lv_" (extract "lv_" false [createFunc "self"]).value).value,
        definition.object = ("Self" : Text) ∧ ¬ definition.IsLegal := by
  refine ⟨by decide, (Widget.mk "self" [createFunc "self"]).definition "lv_", ?_, by decide, ?_⟩
  · exact mem_definitions_iff.mpr ⟨_, by decide, by decide, rfl⟩
  · exact fun legal => absurd legal.object (by decide)

example : ¬ Name.IsLegal (Name.escape (Name.withinWidget "lv_" "btn" "lv_btn_3d")) ∧
    ¬ Name.IsLegal (Name.escape "_") := by
  decide

end WidgetBindings
