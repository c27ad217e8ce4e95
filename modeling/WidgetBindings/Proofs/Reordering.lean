import WidgetBindings.Generator
import WidgetBindings.Proofs.Extraction
import WidgetBindings.Proofs.SortedNames

namespace WidgetBindings

/-! Declarations in another order.

The order of the functions decides in which order widgets are found, and in which order a widget
has its methods. Only the second order is seen in the generated text.
-/

section Reordered

variable {lib : Text} {separated : Bool} {first second : List Func}

/-- In both lists the functions of a widget stand in one order. -/
def SameMethods (lib : Text) (separated : Bool) (first second : List Func) (widget : Text) : Prop :=
  first.filter (·.BelongsTo lib separated widget) = second.filter (·.BelongsTo lib separated widget)

instance (widget : Text) : Decidable (SameMethods lib separated first second widget) :=
  inferInstanceAs (Decidable (_ = _))

theorem extract_names_perm (reordered : first.Perm second) :
    ((extract lib separated first).value.map Widget.name).Perm
      ((extract lib separated second).value.map Widget.name) := by
  refine (List.perm_ext_iff_of_nodup nodup_extract_names nodup_extract_names).mpr fun name => ?_
  simp only [mem_extract_names_iff, reordered.mem_iff]

theorem extract_perm (reordered : first.Perm second)
    (same : ∀ widget ∈ (extract lib separated first).value,
      SameMethods lib separated first second widget.name) :
    (extract lib separated first).value.Perm (extract lib separated second).value := by
  have names : (first.filterMap (Func.introduces? lib)).eraseDups.Perm
      (second.filterMap (Func.introduces? lib)).eraseDups := by
    have perm : ((extract lib separated first).value.map Widget.name).Perm
        ((extract lib separated second).value.map Widget.name) := extract_names_perm reordered
    simpa only [extract_names] using perm
  have methods : ∀ name ∈ (first.filterMap (Func.introduces? lib)).eraseDups,
      SameMethods lib separated first second name := by
    have listed := List.forall_mem_map.mpr same
    simpa only [extract_names] using listed
  have gatheredSame :
      gathered lib separated (first.filterMap (Func.introduces? lib)).eraseDups first =
        gathered lib separated (first.filterMap (Func.introduces? lib)).eraseDups second := by
    refine List.map_congr_left fun name listed => ?_
    rw [methods name listed]
  rw [extract_value, extract_value, gatheredSame]
  exact names.map _

/-- Moving declarations leaves the generated module as it is, as long as every widget keeps its
methods in order. Widgets may be found in another order all the same. -/
theorem generate_reordered (reordered : first.Perm second)
    (same : ∀ widget ∈ (extract lib separated first).value,
      SameMethods lib separated first second widget.name) :
    let before := (Generator.ofFunctions lib separated first).value
    let after := (Generator.ofFunctions lib separated second).value
    before.widgets.Perm after.widgets ∧ before.generate.value = after.generate.value := by
  intro before after
  have widgets : before.widgets.Perm after.widgets := extract_perm reordered same
  have text : generateModule lib before.widgets = generateModule lib after.widgets :=
    generateModule_eq_of_perm lib widgets nodup_extract_names
  exact ⟨widgets, congrArg Logged.value text⟩

end Reordered

/-- The functions of the button, with the create function of the button matrix in front. -/
def matrixFirstApi : List Func :=
  let isMatrix (func : Func) : Bool := func.name == "lv_btnmatrix_create"
  buttonApi.filter isMatrix ++ buttonApi.filter (!isMatrix ·)

theorem generate_reordered_button :
    buttonApi.Perm matrixFirstApi ∧
      (∀ widget ∈ (extract "lv_" true buttonApi).value,
        SameMethods "lv_" true buttonApi matrixFirstApi widget.name) ∧
      (extract "lv_" true buttonApi).value.map Widget.name = (["btn", "btnmatrix"] : List Text) ∧
      (extract "lv_" true matrixFirstApi).value.map Widget.name =
        (["btnmatrix", "btn"] : List Text) ∧
      (Generator.ofFunctions "lv_" true buttonApi).value.generate.value =
        (Generator.ofFunctions "lv_" true matrixFirstApi).value.generate.value :=
  ⟨by decide, by decide, by decide, by decide, (generate_reordered (by decide) (by decide)).2⟩

end WidgetBindings
