import Mathlib.Data.List.Nodup
import WidgetBindings.Proofs.Constructors
import WidgetBindings.Proofs.Identifier
import WidgetBindings.Proofs.WrappedFunctions

namespace WidgetBindings

/-! Function names in one implementation block.

The functions of a widget have different names within it, and mostly so have their wrappers. Two
rules bring in a name that another function may have already: the constructor is always `new`, and
a word that cannot be raw gets an underscore behind.
-/

namespace Name

/-- The name of a wrapper, from the name of its function within the widget. -/
def blockName (name : Text) : Text :=
  if name = ("create" : Text) then "new" else escape name

/-- Names that are different within the widget and one in the implementation block. -/
def clashes : List (Text × Text) :=
  [("create", "new"), ("self", "self_"), ("Self", "Self_"), ("super", "super_"),
    ("crate", "crate_")]

variable {first second : Text}

theorem mem_clashes_iff : (first, second) ∈ clashes ↔
    (first = ("create" : Text) ∧ second = ("new" : Text)) ∨ TakesName first second := by
  have rules : clashes = (("create" : Text), ("new" : Text)) ::
      notRaw.map fun word => (word, word ++ ("_" : Text)) := rfl
  rw [rules, List.mem_cons, List.mem_map, Prod.mk.injEq]
  refine or_congr_right (Iff.intro ?_ ?_)
  · intro ⟨word, listed, same⟩
    obtain ⟨rfl, rfl⟩ := Prod.mk.inj same
    exact ⟨listed, rfl⟩
  · intro ⟨listed, taken⟩
    exact ⟨first, listed, by rw [taken]⟩

theorem blockName_eq_of_mem_clashes (clash : (first, second) ∈ clashes) :
    blockName first = blockName second ∧ first ≠ second := by
  have all : ∀ pair ∈ clashes, blockName pair.1 = blockName pair.2 ∧ pair.1 ≠ pair.2 := by decide
  exact all (first, second) clash

/-- No name is escaped to `new` but the name itself. -/
theorem escape_eq_new_iff (plain : '#' ∉ first) : escape first = ("new" : Text) ↔
    first = ("new" : Text) := by
  have kept : escape "new" = ("new" : Text) := by decide
  have untaken : ∀ word ∈ notRaw, ("new" : Text) ≠ word ++ "_" := by decide
  rw [← kept, escape_eq_iff plain (by decide), kept]
  refine or_iff_left fun taken => ?_
  rcases taken with ⟨listed, same⟩ | ⟨listed, -⟩
  · exact untaken first listed same
  · exact absurd listed (by decide)

theorem blockName_eq_iff (firstPlain : '#' ∉ first) (secondPlain : '#' ∉ second) :
    blockName first = blockName second ↔
      first = second ∨ (first, second) ∈ clashes ∨ (second, first) ∈ clashes := by
  refine Iff.intro (fun same => ?_) ?_
  · unfold blockName at same
    by_cases firstCreates : first = ("create" : Text) <;>
    by_cases secondCreates : second = ("create" : Text)
    · exact .inl (firstCreates.trans secondCreates.symm)
    · rw [if_pos firstCreates, if_neg secondCreates] at same
      have taken := (escape_eq_new_iff secondPlain).mp same.symm
      exact .inr (.inl (mem_clashes_iff.mpr (.inl ⟨firstCreates, taken⟩)))
    · rw [if_neg firstCreates, if_pos secondCreates] at same
      have taken := (escape_eq_new_iff firstPlain).mp same
      exact .inr (.inr (mem_clashes_iff.mpr (.inl ⟨secondCreates, taken⟩)))
    · rw [if_neg firstCreates, if_neg secondCreates] at same
      rcases (escape_eq_iff firstPlain secondPlain).mp same with equal | taken | taken
      · exact .inl equal
      · exact .inr (.inl (mem_clashes_iff.mpr (.inr taken)))
      · exact .inr (.inr (mem_clashes_iff.mpr (.inr taken)))
  · intro shared
    rcases shared with rfl | clash | clash
    · rfl
    · exact (blockName_eq_of_mem_clashes clash).1
    · exact (blockName_eq_of_mem_clashes clash).1.symm

end Name

/-- The name of a function in its text: the word behind `pub fn`. -/
def fnName (text : Text) : Text :=
  (text.drop ("pub fn " : Text).length).takeWhile Name.isWordChar

theorem fnName_append {name rest : Text} {char : Char} (word : Name.IsWord name)
    (ends : Name.isWordChar char = false) :
    fnName (("pub fn " : Text) ++ (name ++ char :: rest)) = name := by
  unfold fnName
  rw [List.drop_left, List.takeWhile_append_of_pos word, List.takeWhile_cons, ends]
  simp

theorem fnName_constructorText (callee : Text) : fnName (constructorText callee) = "new" := by
  obtain ⟨rest, split⟩ := constructorText_opens callee
  have opening : constructorText callee =
      ("pub fn " : Text) ++ (("new" : Text) ++ '<' :: (("C>(" : Text) ++ rest)) := split.symm
  rw [opening, fnName_append (by decide) (by decide)]

theorem fnName_method {method : Method} (word : Name.IsWord method.name) :
    fnName method.text = method.name := by
  obtain ⟨rest, opening⟩ := method.exists_text_eq
  rw [opening, fnName_append word (by decide)]

section Block

variable {lib : Text} {functions : List Func} {widget : Widget}

theorem Func.fnName_of_wrapper {func : Func} {wrapper : Wrapper} {widget : Text}
    (word : Name.IsWord func.name) (found : func.wrapper lib widget = .ok wrapper) :
    fnName wrapper.text = Name.blockName (Name.withinWidget lib widget func.name) := by
  unfold Name.blockName
  rcases wrapper_eq_ok_iff.mp found with ⟨create, rfl⟩ | ⟨other, binding, bound, rfl⟩
  · rw [if_pos create]
    exact fnName_constructorText func.name
  · obtain ⟨receiver, params, arguments, -, -, -, rfl⟩ := method_eq_ok_iff.mp bound
    have within := word.of_subset (Name.withinWidget_suffix lib widget func.name).subset
    rw [if_neg other]
    exact fnName_method within.escape

/-- The names in the block, in the order of the functions. -/
def blockNames (lib : Text) (widget : Widget) : List Text :=
  (widget.definition lib).wrappers.map fun wrapper => fnName wrapper.text

theorem blockNames_eq (words : ∀ func ∈ widget.methods, Name.IsWord func.name) :
    blockNames lib widget =
      (widget.wrapped lib).map fun name => Name.blockName (Name.withinWidget lib widget.name name) :=
  Widget.map_wrappers fun func method _ found => func.fnName_of_wrapper (words func method) found

theorem isIdentifier_of_mem_wrapped {separated : Bool} {name : Text}
    (identifiers : ∀ func ∈ functions, Name.isIdentifier func.name = true)
    (extracted : widget ∈ (extract lib separated functions).value)
    (inside : name ∈ widget.wrapped lib) : Name.isIdentifier name = true := by
  obtain ⟨func, method, rfl, -⟩ := Widget.mem_wrapped_iff.mp inside
  exact identifiers func ((mem_methods_iff extracted).mp method).1

/-- In strict mode a name stands twice in a block only where a clash is met. -/
theorem nodup_blockNames_iff (distinct : (functions.map Func.name).Nodup)
    (identifiers : ∀ func ∈ functions, Name.isIdentifier func.name = true)
    (extracted : widget ∈ (extract lib true functions).value) :
    let stem := lib ++ widget.name ++ ("_" : Text)
    (blockNames lib widget).Nodup ↔ ∀ pair ∈ Name.clashes,
      ¬ (stem ++ pair.1 ∈ widget.wrapped lib ∧ stem ++ pair.2 ∈ widget.wrapped lib) := by
  intro stem
  have words : ∀ func ∈ widget.methods, Name.IsWord func.name := fun func method =>
    Name.isWord_of_isIdentifier (identifiers func ((mem_methods_iff extracted).mp method).1)
  have within (rest : Text) : Name.withinWidget lib widget.name (stem ++ rest) = rest :=
    Name.withinWidget_stem lib widget.name rest
  rw [blockNames_eq words, List.nodup_map_iff_inj_on (Widget.nodup_wrapped distinct extracted)]
  refine Iff.intro ?_ ?_
  · intro injective pair clash ⟨inFirst, inSecond⟩
    obtain ⟨shared, different⟩ := Name.blockName_eq_of_mem_clashes clash
    have same := injective _ inFirst _ inSecond (by rw [within, within, shared])
    exact different (List.append_cancel_left same)
  · intro free name inFirst other inSecond same
    have firstIdentifier := isIdentifier_of_mem_wrapped identifiers extracted inFirst
    have secondIdentifier := isIdentifier_of_mem_wrapped identifiers extracted inSecond
    obtain ⟨-, firstRest, rfl⟩ := Widget.stem_of_mem_wrapped extracted inFirst
    obtain ⟨-, secondRest, rfl⟩ := Widget.stem_of_mem_wrapped extracted inSecond
    rw [within, within] at same
    have firstPlain : '#' ∉ firstRest := fun member =>
      Name.mark_notMem firstIdentifier (List.mem_append_right _ member)
    have secondPlain : '#' ∉ secondRest := fun member =>
      Name.mark_notMem secondIdentifier (List.mem_append_right _ member)
    rcases (Name.blockName_eq_iff firstPlain secondPlain).mp same with rfl | clash | clash
    · rfl
    · exact absurd ⟨inFirst, inSecond⟩ (free _ clash)
    · exact absurd ⟨inSecond, inFirst⟩ (free _ clash)

end Block

theorem nodup_blockNames_button :
    (buttonApi.map Func.name).Nodup ∧
      (∀ func ∈ buttonApi, Name.isIdentifier func.name = true) ∧
      ⟨"btn", buttonApi.eraseIdx 2⟩ ∈ (extract "lv_" true buttonApi).value ∧
      (blockNames "lv_" ⟨"btn", buttonApi.eraseIdx 2⟩).Nodup := by
  have extracted : ⟨"btn", buttonApi.eraseIdx 2⟩ ∈ (extract "lv_" true buttonApi).value := by
    decide
  refine ⟨by decide, by decide, extracted, ?_⟩
  exact (nodup_blockNames_iff (by decide) (by decide) extracted).mpr (by decide)

/-- A function that is itself called `new` takes the name of the constructor. -/
theorem blockNames_new_twice :
    let functions : List Func := [createFunc "btn",
      { name := "lv_btn_new", params := [⟨"btn", ⟨"lv_obj_t *"⟩⟩] }]
    (functions.map Func.name).Nodup ∧
      (∀ func ∈ functions, Name.isIdentifier func.name = true) ∧
      ∃ widget ∈ (extract "lv_" true functions).value,
        blockNames "lv_" widget = (["new", "new"] : List Text) := by
  decide

end WidgetBindings
