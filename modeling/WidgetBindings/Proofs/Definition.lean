import WidgetBindings.Proofs.Printing
import WidgetBindings.Widget.Definition

namespace WidgetBindings

/-! The definitions of a module without the report on them. -/

namespace Func

@[simp] theorem tryWrapper_value (lib widget : Text) (func : Func) :
    (func.tryWrapper lib widget).value = (func.wrapper lib widget).toOption := by
  unfold tryWrapper wrapper tryMethod
  split
  · rfl
  · cases func.method lib widget <;> rfl

end Func

namespace Widget

/-- Functions without a wrapper are left out. -/
def definition (lib : Text) (widget : Widget) : Definition :=
  { object := Name.pascal widget.name
    wrappers := widget.methods.filterMap fun func => (func.wrapper lib widget.name).toOption }

@[simp] theorem define_value (lib : Text) (widget : Widget) :
    (widget.define lib).value = widget.definition lib := by
  simp [define, definition]

@[simp] theorem moduleEntry_value (lib : Text) (widget : Widget) :
    (moduleEntry lib widget).value =
      if widget.isBase then none else some (widget.definition lib) := by
  unfold moduleEntry definition?
  by_cases base : widget.isBase <;> simp [base]

theorem isBase_iff {widget : Widget} : widget.isBase = true ↔ widget.name = ("obj" : Text) := by
  simp [isBase, baseObject]

theorem mem_filter_isBase_iff {widget : Widget} {widgets : List Widget} :
    widget ∈ widgets.filter (!·.isBase) ↔ widget ∈ widgets ∧ widget.name ≠ ("obj" : Text) := by
  simp only [List.mem_filter, Bool.not_eq_true', Bool.eq_false_iff, ne_eq, isBase_iff]

/-- What is written for the widgets but the base object. -/
theorem filterMap_ite_isBase {α : Type} (write : Widget → α) (widgets : List Widget) :
    (widgets.filterMap fun widget => if widget.isBase then none else some (write widget)) =
      (widgets.filter (!·.isBase)).map write := by
  have kept (widget : Widget) : (if widget.isBase then none else some (write widget)) =
      if !widget.isBase then some (write widget) else none := by
    cases widget.isBase <;> rfl
  simp only [kept]
  rw [← List.filterMap_eq_map, List.filterMap_filter]
  rfl

end Widget

theorem sortedByName_perm (widgets : List Widget) : (sortedByName widgets).Perm widgets :=
  List.mergeSort_perm _ _

theorem definitions_value (lib : Text) (widgets : List Widget) :
    (definitions lib widgets).value =
      ((sortedByName widgets).filter (!·.isBase)).map (Widget.definition lib) := by
  simp only [definitions, Logged.bind_value, Logged.mapM_value, Widget.moduleEntry_value,
    Logged.pure_value, List.filterMap_map]
  exact Widget.filterMap_ite_isBase (Widget.definition lib) (sortedByName widgets)

theorem mem_definitions_iff {lib : Text} {widgets : List Widget} {definition : Definition} :
    definition ∈ (definitions lib widgets).value ↔
      ∃ widget ∈ widgets, widget.name ≠ ("obj" : Text) ∧ widget.definition lib = definition := by
  have kept := (sortedByName_perm widgets).filter (!·.isBase)
  simp only [definitions_value, List.mem_map, kept.mem_iff, Widget.mem_filter_isBase_iff, and_assoc]

/-- All names of a definition are words. -/
structure Definition.IsPlain (definition : Definition) : Prop where
  object : Name.IsWord definition.object
  wrappers : ∀ wrapper ∈ definition.wrappers, wrapper.IsPlain

end WidgetBindings
