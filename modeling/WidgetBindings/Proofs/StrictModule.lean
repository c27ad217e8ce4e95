import Mathlib.Data.List.Nodup
import WidgetBindings.Proofs.NativeCalls
import WidgetBindings.Proofs.WrappedFunctions

namespace WidgetBindings

/-! Modules made in strict mode: every function that can be wrapped is called at one place.

With the separator a function belongs to one widget at most. The functions that a module wraps are
then named once each, and every wrapper holds one native call.
-/

section Strict

variable {lib : Text} {functions : List Func} {widget : Widget}

namespace Widget

theorem callees_definition (lib : Text) (widget : Widget) :
    (widget.definition lib).callees = widget.wrapped lib := by
  unfold Definition.callees
  have names : (widget.definition lib).wrappers.map Wrapper.callee =
      (widget.wrapped lib).map id := map_wrappers fun _ _ _ found => Func.callee_eq_name found
  rw [names, List.map_id]

end Widget

theorem occurrences_generateModule {name : Text} {widgets : List Widget} (word : Name.IsWord name)
    (nameWords : ∀ widget ∈ widgets, Name.IsWord widget.name)
    (identifiers : ∀ widget ∈ widgets, ∀ func ∈ widget.methods, func.HasIdentifiers) :
    Text.occurrences (callMark name) (generateModule lib widgets).value =
      ((widgets.filter (!·.isBase)).flatMap (Widget.wrapped lib)).count name := by
  have sameCallees : (definitions lib widgets).value.flatMap Definition.callees =
      ((sortedByName widgets).filter (!·.isBase)).flatMap (Widget.wrapped lib) := by
    rw [definitions_value, List.flatMap_map]
    exact List.flatMap_congr fun widget _ => widget.callees_definition lib
  have unsorted := ((sortedByName_perm widgets).filter (!·.isBase)).flatMap_right (Widget.wrapped lib)
  rw [generateModule, Logged.map_value,
    occurrences_moduleText word (plain_of_mem_definitions nameWords identifiers), sameCallees,
    unsorted.count_eq]

/-- What the widgets wrap in strict mode: a function has to be found under the stem of a widget
that is not written by hand, and to be its create function or one that a method can call. -/
def IsWrapped (lib : Text) (functions : List Func) (name : Text) : Prop :=
  ∃ func ∈ functions, func.name = name ∧ func.TakesHandle ∧
    ∃ widget ∈ (extract lib true functions).value, widget.name ≠ ("obj" : Text) ∧
      lib ++ widget.name ++ ("_" : Text) <+: name ∧
      (name = lib ++ widget.name ++ "_create" ∨
        func.result = none ∧ ∀ param ∈ func.params.tail, param.type.IsSupported)

instance (lib : Text) (functions : List Func) (name : Text) :
    Decidable (IsWrapped lib functions name) :=
  inferInstanceAs (Decidable (∃ func ∈ functions, _))

namespace Func

variable {func : Func}

theorem params_ne_nil_of_takesHandle (handle : func.TakesHandle) : func.params ≠ [] := by
  intro empty
  obtain ⟨receiver, first, -⟩ := handle
  simp [empty] at first

theorem exists_wrapper_iff_of_belongsTo {widget : Text} (belongs : func.BelongsTo lib true widget) :
    (∃ wrapper, func.wrapper lib widget = .ok wrapper) ↔
      func.name = lib ++ widget ++ "_create" ∨
        func.result = none ∧ ∀ param ∈ func.params.tail, param.type.IsSupported := by
  have nonempty := params_ne_nil_of_takesHandle belongs.1
  have owned := name_prefix_of_belongsTo belongs
  simp only [exists_wrapper_iff, Name.withinWidget_eq_create_iff, owned, nonempty, ne_eq,
    not_true_eq_false, not_false_eq_true, false_and, or_false, true_and]

end Func

theorem mem_wrapped_extract_iff {name : Text} :
    name ∈ ((extract lib true functions).value.filter (!·.isBase)).flatMap (Widget.wrapped lib) ↔
      IsWrapped lib functions name := by
  refine Iff.intro ?_ ?_
  · intro member
    obtain ⟨widget, kept, inside⟩ := List.mem_flatMap.mp member
    obtain ⟨extracted, other⟩ := Widget.mem_filter_isBase_iff.mp kept
    obtain ⟨func, method, rfl, found⟩ := Widget.mem_wrapped_iff.mp inside
    obtain ⟨listed, belongs⟩ := (mem_methods_iff extracted).mp method
    exact ⟨func, listed, rfl, belongs.1, widget, extracted, other,
      Func.name_prefix_of_belongsTo belongs, (Func.exists_wrapper_iff_of_belongsTo belongs).mp found⟩
  · intro ⟨func, listed, named, handle, widget, extracted, other, owned, bound⟩
    obtain rfl := named
    have belongs : func.BelongsTo lib true widget.name := ⟨handle, owned⟩
    have found := (Func.exists_wrapper_iff_of_belongsTo belongs).mpr bound
    have method := (mem_methods_iff extracted).mpr ⟨listed, belongs⟩
    exact List.mem_flatMap.mpr ⟨widget, Widget.mem_filter_isBase_iff.mpr ⟨extracted, other⟩,
      Widget.mem_wrapped_iff.mpr ⟨func, method, rfl, found⟩⟩

theorem nodup_wrapped_extract (distinct : (functions.map Func.name).Nodup) :
    (((extract lib true functions).value.filter (!·.isBase)).flatMap (Widget.wrapped lib)).Nodup := by
  refine List.nodup_flatMap.mpr ⟨?_, ?_⟩
  · intro widget kept
    exact Widget.nodup_wrapped distinct (List.mem_of_mem_filter kept)
  · have apart : (extract lib true functions).value.Pairwise (·.name ≠ ·.name) :=
      List.pairwise_map.mp nodup_extract_names
    refine (apart.sublist List.filter_sublist).imp_of_mem ?_
    intro first second firstKept secondKept different name inFirst inSecond
    obtain ⟨firstPlain, firstOwns⟩ :=
      Widget.stem_of_mem_wrapped (List.mem_of_mem_filter firstKept) inFirst
    obtain ⟨secondPlain, secondOwns⟩ :=
      Widget.stem_of_mem_wrapped (List.mem_of_mem_filter secondKept) inSecond
    exact different (Name.widget_eq_of_prefix firstPlain secondPlain firstOwns secondOwns)

/-- In strict mode nothing is lost and nothing is doubled. -/
theorem occurrences_nativeCall_strict {name : Text} (distinct : (functions.map Func.name).Nodup)
    (identifiers : ∀ func ∈ functions, func.HasIdentifiers)
    (identifier : Name.isIdentifier name = true) :
    let text := (generateModule lib (extract lib true functions).value).value
    (IsWrapped lib functions name →
      Text.occurrences ("lvgl_sys::" ++ name ++ "(") text = 1) ∧
    (¬ IsWrapped lib functions name →
      Text.occurrences ("lvgl_sys::" ++ name ++ "(") text = 0) := by
  intro text
  have nameWords : ∀ widget ∈ (extract lib true functions).value, Name.IsWord widget.name := by
    intro widget extracted
    obtain ⟨func, listed, -, creates⟩ := exists_creates_of_mem_extract extracted
    have word := Name.isWord_of_isIdentifier (identifiers func listed).name
    exact word.of_subset creates.subset
  have methods : ∀ widget ∈ (extract lib true functions).value, ∀ func ∈ widget.methods,
      func.HasIdentifiers :=
    fun widget extracted func method =>
      identifiers func ((mem_methods_iff extracted).mp method).1
  have counted : Text.occurrences ("lvgl_sys::" ++ name ++ "(") text = _ :=
    occurrences_generateModule (Name.isWord_of_isIdentifier identifier) nameWords methods
  rw [counted]
  refine ⟨fun isWrapped => ?_, fun unwrapped => ?_⟩
  · exact List.count_eq_one_of_mem (nodup_wrapped_extract distinct)
      (mem_wrapped_extract_iff.mpr isWrapped)
  · exact List.count_eq_zero.mpr (mt mem_wrapped_extract_iff.mp unwrapped)

theorem occurrences_nativeCall_strict_button :
    (buttonApi.map Func.name).Nodup ∧ (∀ func ∈ buttonApi, func.HasIdentifiers) ∧
      Name.isIdentifier "lv_btn_set_width" = true ∧
      Text.occurrences ("lvgl_sys::" ++ "lv_btn_set_width" ++ "(")
        (generateModule "lv_" (extract "lv_" true buttonApi).value).value = 1 :=
  ⟨by decide, by decide, by decide,
    (occurrences_nativeCall_strict (by decide) (by decide) (by decide)).1 (by decide)⟩

end Strict

end WidgetBindings
