import WidgetBindings.Proofs.Extraction
import WidgetBindings.Proofs.Loading
import WidgetBindings.Proofs.SortedNames

namespace WidgetBindings

/-! What holds in every state of a generator.

Functions, widgets and the library's prefix are changed one at a time and soon have little to do
with each other. The widgets keep different names all the same: an edit changes no name, and a new
extraction names every widget once. That is why a lookup by name finds each of them, and why a
module can be put together from such lookups.
-/

namespace Widget

/-- The text of a widget's definition; the base object has none. -/
def text? (lib : Text) (widget : Widget) : Option Text :=
  (widget.definition? lib).value.map Definition.text

theorem text?_eq (lib : Text) (widget : Widget) :
    widget.text? lib = if widget.isBase then none else some (widget.definition lib).text := by
  unfold text? definition?
  cases widget.isBase with
  | true => rfl
  | false => simp

end Widget

theorem generateModule_value (lib : Text) (widgets : List Widget) :
    (generateModule lib widgets).value = ("// Generated by lvgl-codegen - DO NOT EDIT\n" : Text) ++
      "\n" ++ ("\n" : Text).intercalate ((sortedByName widgets).filterMap (Widget.text? lib)) := by
  have texts : (definitions lib widgets).value.map Definition.text =
      (sortedByName widgets).filterMap (Widget.text? lib) := by
    rw [definitions_value, List.map_map, ← Widget.filterMap_ite_isBase]
    exact List.filterMap_congr fun widget _ => (widget.text?_eq lib).symm
  rw [← texts]
  rfl

namespace Generator

/-- The states of a generator: it is built from functions or from a loaded unit, and then edited. -/
inductive Reachable : Generator → Prop
  | ofFunctions (lib : Text) (separated : Bool) (functions : List Func) :
      Reachable (Generator.ofFunctions lib separated functions).value
  | load {request : Request} {lib : Text} {separated fileFound : Bool} {parser : CParser}
      {generator : Generator}
      (loaded : (Generator.load request lib separated fileFound parser).value.outcome =
        .ok generator) : Reachable generator
  | edit {generator : Generator} (edit : Edit) (reached : Reachable generator) :
      Reachable (generator.edit edit).value

def names (generator : Generator) : List Text :=
  generator.widgets.map Widget.name

variable {generator : Generator}

theorem nodup_names_ofFunctions (lib : Text) (separated : Bool) (functions : List Func) :
    (ofFunctions lib separated functions).value.names.Nodup :=
  nodup_extract_names

theorem map_name_modify {change : Widget → Widget} (kept : ∀ widget, (change widget).name = widget.name)
    (widgets : List Widget) (index : Nat) :
    (widgets.modify index change).map Widget.name = widgets.map Widget.name := by
  induction widgets generalizing index with
  | nil => simp
  | cons widget rest ih =>
      cases index with
      | zero => simp [kept]
      | succ index => simp [ih]

theorem names_modifyWidget (change : Widget → Widget)
    (kept : ∀ widget, (change widget).name = widget.name) (name : Text) :
    (generator.modifyWidget name change).names = generator.names :=
  map_name_modify kept _ _

/-- Methods come and go, and extraction starts anew; no name is touched otherwise. -/
theorem nodup_names_edit (distinct : generator.names.Nodup) (edit : Edit) :
    (generator.edit edit).value.names.Nodup := by
  cases edit with
  | setLib lib => exact distinct
  | addFunction func => exact distinct
  | addMethod widget func =>
      have kept : (generator.modifyWidget widget (·.addMethod func)).names = generator.names :=
        names_modifyWidget (·.addMethod func) (fun _ => rfl) widget
      exact kept ▸ distinct
  | dropMethod widget method =>
      have kept : (generator.modifyWidget widget (·.dropMethod method)).names = generator.names :=
        names_modifyWidget (·.dropMethod method) (fun _ => rfl) widget
      exact kept ▸ distinct
  | extract separated => exact nodup_names_ofFunctions _ separated _

theorem Reachable.nodup_names (reached : Reachable generator) : generator.names.Nodup := by
  induction reached with
  | ofFunctions lib separated functions => exact nodup_names_ofFunctions lib separated functions
  | load loaded =>
      obtain ⟨functions, rfl⟩ := exists_functions_of_load loaded
      exact nodup_names_ofFunctions _ _ functions
  | edit edit _ distinct => exact nodup_names_edit distinct edit

theorem name_of_widget? {name : Text} {widget : Widget}
    (found : generator.widget? name = some widget) :
    widget ∈ generator.widgets ∧ widget.name = name := by
  unfold widget? at found
  exact ⟨List.mem_of_find?_eq_some found, by simpa using List.find?_some found⟩

/-- With different names the first widget of a name is the only one. -/
theorem widget?_eq_some_iff (distinct : generator.names.Nodup) {name : Text} {widget : Widget} :
    generator.widget? name = some widget ↔ widget ∈ generator.widgets ∧ widget.name = name := by
  refine Iff.intro name_of_widget? fun ⟨listed, named⟩ => ?_
  obtain ⟨first, found⟩ : ∃ first, generator.widget? name = some first :=
    Option.isSome_iff_exists.mp (List.find?_isSome.mpr ⟨widget, listed, beq_iff_eq.mpr named⟩)
  obtain ⟨firstListed, firstNamed⟩ := name_of_widget? found
  have same := List.inj_on_of_nodup_map distinct firstListed listed (firstNamed.trans named.symm)
  rw [found, same]

theorem widget?_eq_none_iff {name : Text} :
    generator.widget? name = none ↔ name ∉ generator.names := by
  unfold widget? names
  simp only [List.find?_eq_none, beq_iff_eq, List.mem_map, not_exists, not_and]

/-- Different names in order are in strict order. -/
theorem pairwise_names_sortedByName (distinct : generator.names.Nodup) :
    ((sortedByName generator.widgets).map Widget.name).Pairwise Text.Precedes := by
  have sortedPerm := (sortedByName_perm generator.widgets).map Widget.name
  have different := List.pairwise_map.mp (sortedPerm.nodup_iff.mpr distinct)
  have increasing := (orderedByName_sortedByName generator.widgets).increasing
  exact List.pairwise_map.mpr
    ((increasing.and different).imp fun ⟨below, other⟩ => below.resolve_left other)

/-- The module, put together from what a lookup finds under each name. -/
theorem generate_value (distinct : generator.names.Nodup) :
    generator.generate.value = ("// Generated by lvgl-codegen - DO NOT EDIT\n" : Text) ++ "\n" ++
      ("\n" : Text).intercalate
        (((sortedByName generator.widgets).map Widget.name).filterMap fun name =>
          (generator.widget? name).bind (Widget.text? generator.lib)) := by
  have looked : ∀ widget ∈ sortedByName generator.widgets,
      (generator.widget? widget.name).bind (Widget.text? generator.lib) =
        widget.text? generator.lib := by
    intro widget member
    have listed := (sortedByName_perm generator.widgets).mem_iff.mp member
    rw [(widget?_eq_some_iff distinct).mpr ⟨listed, rfl⟩, Option.bind_some]
  rw [generate, generateModule_value, List.filterMap_map]
  exact congrArg _ (congrArg _ (List.filterMap_congr fun widget member =>
    (looked widget member).symm))

/-- In every state widgets have different names and are found under them, and the module is what
the lookups give in the order of the names. -/
theorem reachable_exact (reached : Reachable generator) :
    (generator.widgets.map Widget.name).Nodup ∧
    (∀ name widget, generator.widget? name = some widget ↔
      widget ∈ generator.widgets ∧ widget.name = name) ∧
    (∀ name, generator.widget? name = none ↔ name ∉ generator.widgets.map Widget.name) ∧
    ∃ names : List Text, names.Perm (generator.widgets.map Widget.name) ∧
      names.Pairwise Text.Precedes ∧
      generator.generate.value = ("// Generated by lvgl-codegen - DO NOT EDIT\n" : Text) ++ "\n" ++
        ("\n" : Text).intercalate (names.filterMap fun name =>
          (generator.widget? name).bind (Widget.text? generator.lib)) :=
  ⟨reached.nodup_names, fun _ _ => widget?_eq_some_iff reached.nodup_names,
    fun _ => widget?_eq_none_iff, _, (sortedByName_perm generator.widgets).map Widget.name,
    pairwise_names_sortedByName reached.nodup_names, generate_value reached.nodup_names⟩

/-- With another prefix and a method less than extracted, all widgets are still found, and the
module does not list them in the order in which they were extracted. -/
theorem reachable_exact_button :
    let extracted := (ofFunctions "lv_" true
      (createFunc "slider" :: buttonApi ++ [createFunc "Zoom"])).value
    let renamed := (extracted.edit (.setLib "tft_")).value
    let generator := (renamed.edit (.dropMethod "btn" "lv_btn_set_width")).value
    Reachable generator ∧ generator.lib = ("tft_" : Text) ∧
      generator.widgets.map Widget.name = (["slider", "btn", "btnmatrix", "Zoom"] : List Text) ∧
      (generator.widget? "btn").map (·.methods.map Func.name) =
        some (["lv_btn_create", "lv_btn_get_width"] : List Text) ∧
      generator.generate.value = ("// Generated by lvgl-codegen - DO NOT EDIT\n" : Text) ++ "\n" ++
        ("\n" : Text).intercalate
          ((["Zoom", "btn", "btnmatrix", "slider"] : List Text).filterMap fun name =>
            (generator.widget? name).bind (Widget.text? generator.lib)) := by
  intro extracted renamed generator
  have reached : Reachable generator := .edit _ (.edit _ (.ofFunctions "lv_" true _))
  have named : generator.widgets.map Widget.name =
      (["slider", "btn", "btnmatrix", "Zoom"] : List Text) := by decide
  obtain ⟨-, -, -, names, perm, increasing, generated⟩ := reachable_exact reached
  have inOrder : names = (["Zoom", "btn", "btnmatrix", "slider"] : List Text) := by
    refine List.Perm.eq_of_pairwise ?_ increasing (by decide) (perm.trans (named ▸ by decide))
    intro name other _ _ below above
    exact absurd above below.asymm
  exact ⟨reached, rfl, named, by decide, inOrder ▸ generated⟩

end Generator

end WidgetBindings
