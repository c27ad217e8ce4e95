import Mathlib.Data.List.Nodup
import WidgetBindings.Proofs.Extraction

namespace WidgetBindings

/-! Functions that belong to several widgets.

A name has the stems of two widgets only if one widget's name starts the other's. With the separator
that never happens, since no widget's name holds an underscore. Without it a widget also gets the
functions of the widgets that go on from its name, and within the widget just these functions keep
their full names.
-/

namespace Name

variable {lib widget first second func : Text}

theorem prefix_or_prefix_of_stems (firstOwns : lib ++ first <+: func)
    (secondOwns : lib ++ second <+: func) : first <+: second ∨ second <+: first := by
  have nested := List.prefix_or_prefix_of_prefix firstOwns secondOwns
  rwa [List.prefix_append_right_inj, List.prefix_append_right_inj] at nested

/-- A stem with its separator is never empty, so a name that loses it becomes another. -/
theorem withinWidget_ne_iff :
    withinWidget lib widget func ≠ func ↔ lib ++ widget ++ ("_" : Text) <+: func := by
  refine Iff.intro (fun changed => ?_) ?_
  · by_contra foreign
    exact changed (withinWidget_of_foreign foreign)
  · rintro ⟨rest, rfl⟩ kept
    rw [withinWidget_stem] at kept
    have stemless := List.self_eq_append_left.mp kept
    exact List.append_ne_nil_of_right_ne_nil _ (List.cons_ne_nil _ _) stemless

end Name

namespace Func

variable {lib widget : Text} {func : Func}

theorem prefix_of_belongsTo {separated : Bool} (belongs : func.BelongsTo lib separated widget) :
    lib ++ widget <+: func.name :=
  (List.prefix_append _ _).trans belongs.2

/-- The separator keeps out the functions that have no name of their own within the widget. -/
theorem belongsTo_separated_iff :
    func.BelongsTo lib true widget ↔
      func.BelongsTo lib false widget ∧ Name.withinWidget lib widget func.name ≠ func.name := by
  rw [Name.withinWidget_ne_iff]
  refine Iff.intro (fun belongs => ?_) (fun ⟨belongs, owned⟩ => ⟨belongs.1, owned⟩)
  have unseparated : lib ++ widget ++ [] <+: func.name := by
    rw [List.append_nil]
    exact prefix_of_belongsTo belongs
  exact ⟨⟨belongs.1, unseparated⟩, belongs.2⟩

end Func

section Extracted

variable {lib : Text} {functions : List Func}

/-- A widget without the functions that keep their full names within it. -/
def Widget.narrowed (lib : Text) (widget : Widget) : Widget :=
  { widget with
    methods := widget.methods.filter fun func =>
      Name.withinWidget lib widget.name func.name ≠ func.name }

theorem extract_separated (lib : Text) (functions : List Func) :
    (extract lib true functions).value =
      (extract lib false functions).value.map (Widget.narrowed lib) := by
  simp only [extract_value, gathered, List.map_map]
  refine List.map_congr_left fun name _ => ?_
  have narrow : functions.filter (·.BelongsTo lib true name) =
      (functions.filter (·.BelongsTo lib false name)).filter fun func =>
        Name.withinWidget lib name func.name ≠ func.name := by
    rw [List.filter_filter]
    refine List.filter_congr fun func _ => ?_
    rw [decide_eq_decide.mpr Func.belongsTo_separated_iff, Bool.decide_and, Bool.and_comm]
  rw [Function.comp_apply, Widget.narrowed, narrow]

theorem name_ne_of_mem_extract {separated : Bool} {first second : Widget}
    (firstExtracted : first ∈ (extract lib separated functions).value)
    (secondExtracted : second ∈ (extract lib separated functions).value)
    (different : first ≠ second) : first.name ≠ second.name :=
  mt (List.inj_on_of_nodup_map nodup_extract_names firstExtracted secondExtracted) different

theorem name_ne_of_mem_methods {first second : Widget}
    (firstExtracted : first ∈ (extract lib true functions).value)
    (secondExtracted : second ∈ (extract lib true functions).value) (different : first ≠ second)
    {func other : Func} (method : func ∈ first.methods) (otherMethod : other ∈ second.methods) :
    func.name ≠ other.name := by
  intro same
  have firstOwns := ((mem_methods_iff firstExtracted).mp method).2.2
  have secondOwns := ((mem_methods_iff secondExtracted).mp otherMethod).2.2
  rw [← same] at secondOwns
  exact name_ne_of_mem_extract firstExtracted secondExtracted different
    (Name.widget_eq_of_prefix (plain_of_mem_extract firstExtracted)
      (plain_of_mem_extract secondExtracted) firstOwns secondOwns)

theorem nested_of_shared_name {separated : Bool} {first second : Widget}
    (firstExtracted : first ∈ (extract lib separated functions).value)
    (secondExtracted : second ∈ (extract lib separated functions).value)
    {func other : Func} (method : func ∈ first.methods) (otherMethod : other ∈ second.methods)
    (same : func.name = other.name) : first.name <+: second.name ∨ second.name <+: first.name := by
  have firstOwns := Func.prefix_of_belongsTo ((mem_methods_iff firstExtracted).mp method).2
  have secondOwns := Func.prefix_of_belongsTo ((mem_methods_iff secondExtracted).mp otherMethod).2
  rw [← same] at secondOwns
  exact Name.prefix_or_prefix_of_stems firstOwns secondOwns

/-- With the separator no two widgets share the name of a method. Without it two widgets share one
only if the name of one widget goes on from the name of the other. The widgets are the same in both
modes, and the separator takes from each the methods that keep their full names within it. -/
theorem overlaps_exact (lib : Text) (functions : List Func) :
    let strict := (extract lib true functions).value
    let loose := (extract lib false functions).value
    (∀ first ∈ strict, ∀ second ∈ strict, first ≠ second →
      ∀ func ∈ first.methods, ∀ other ∈ second.methods, func.name ≠ other.name) ∧
    (∀ first ∈ loose, ∀ second ∈ loose, first ≠ second →
      ∀ func ∈ first.methods, ∀ other ∈ second.methods, func.name = other.name →
        first.name ≠ second.name ∧ (first.name <+: second.name ∨ second.name <+: first.name)) ∧
    strict.map Widget.name = loose.map Widget.name ∧
    strict = loose.map fun widget =>
      { widget with
        methods := widget.methods.filter fun func =>
          Name.withinWidget lib widget.name func.name ≠ func.name } := by
  intro strict loose
  refine ⟨?_, ?_, ?_, extract_separated lib functions⟩
  · intro first firstExtracted second secondExtracted different func method other otherMethod
    exact name_ne_of_mem_methods firstExtracted secondExtracted different method otherMethod
  · intro first firstExtracted second secondExtracted different func method other otherMethod same
    exact ⟨name_ne_of_mem_extract firstExtracted secondExtracted different,
      nested_of_shared_name firstExtracted secondExtracted method otherMethod same⟩
  · exact extract_names.trans extract_names.symm

end Extracted

/-- Without the separator the button has the create function of the button matrix, under its full
name. -/
example : (extract "lv_" false buttonApi).value.map (fun widget =>
      (widget.methods.filter fun func =>
        Name.withinWidget "lv_" widget.name func.name = func.name).map Func.name) =
    ([["lv_btnmatrix_create"], []] : List (List Text)) := by
  decide

end WidgetBindings
