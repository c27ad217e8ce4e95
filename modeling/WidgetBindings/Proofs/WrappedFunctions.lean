import WidgetBindings.Proofs.Binding
import WidgetBindings.Proofs.Definition
import WidgetBindings.Proofs.Extraction

namespace WidgetBindings

/-! The functions of a widget that have wrappers.

The wrappers of a definition follow these functions one by one, so what is true of the names of
the functions can be carried over to whatever the wrappers make of them.
-/

theorem Func.name_prefix_of_belongsTo {lib widget : Text} {func : Func}
    (belongs : func.BelongsTo lib true widget) : lib ++ widget ++ ("_" : Text) <+: func.name :=
  belongs.2

namespace Widget

variable {lib : Text} {widget : Widget}

/-- The names of the functions that have wrappers. -/
def wrapped (lib : Text) (widget : Widget) : List Text :=
  (widget.methods.filter fun func => (func.wrapper lib widget.name).toOption.isSome).map Func.name

theorem mem_wrapped_iff {name : Text} :
    name ∈ widget.wrapped lib ↔ ∃ func ∈ widget.methods, func.name = name ∧
      ∃ wrapper, func.wrapper lib widget.name = .ok wrapper := by
  simp only [wrapped, List.mem_map, List.mem_filter, Option.isSome_iff_exists,
    toOption_eq_some_iff]
  exact exists_congr fun func => and_right_comm.trans and_assoc

theorem map_wrappers {α : Type} {ofWrapper : Wrapper → α} {ofName : Text → α}
    (same : ∀ func ∈ widget.methods, ∀ wrapper, func.wrapper lib widget.name = .ok wrapper →
      ofWrapper wrapper = ofName func.name) :
    (widget.definition lib).wrappers.map ofWrapper = (widget.wrapped lib).map ofName := by
  unfold definition wrapped
  generalize widget.methods = methods at same ⊢
  induction methods with
  | nil => rfl
  | cons func rest ih =>
      obtain ⟨head, later⟩ := List.forall_mem_cons.mp same
      have tail := ih later
      cases found : func.wrapper lib widget.name with
      | error skip => simpa [found, Except.toOption] using tail
      | ok wrapper => simpa [found, Except.toOption, head wrapper found] using tail

theorem definition_plain (word : Name.IsWord widget.name)
    (identifiers : ∀ func ∈ widget.methods, func.HasIdentifiers) :
    (widget.definition lib).IsPlain where
  object := word.pascal
  wrappers := by
    intro wrapper member
    obtain ⟨func, method, found⟩ := List.mem_filterMap.mp member
    exact Func.wrapper_plain (identifiers func method) (toOption_eq_some_iff.mp found)

section Extracted

variable {separated : Bool} {functions : List Func}

theorem nodup_wrapped (distinct : (functions.map Func.name).Nodup)
    (extracted : widget ∈ (extract lib separated functions).value) : (widget.wrapped lib).Nodup := by
  rw [wrapped, methods_of_mem_extract extracted]
  exact distinct.sublist ((List.filter_sublist.trans List.filter_sublist).map Func.name)

theorem stem_of_mem_wrapped {name : Text}
    (extracted : widget ∈ (extract lib true functions).value) (inside : name ∈ widget.wrapped lib) :
    '_' ∉ widget.name ∧ lib ++ widget.name ++ ("_" : Text) <+: name := by
  obtain ⟨func, method, rfl, -⟩ := mem_wrapped_iff.mp inside
  have belongs := ((mem_methods_iff extracted).mp method).2
  exact ⟨plain_of_mem_extract extracted, Func.name_prefix_of_belongsTo belongs⟩

end Extracted

end Widget

theorem plain_of_mem_definitions {lib : Text} {widgets : List Widget}
    (words : ∀ widget ∈ widgets, Name.IsWord widget.name)
    (identifiers : ∀ widget ∈ widgets, ∀ func ∈ widget.methods, func.HasIdentifiers) :
    ∀ definition ∈ (definitions lib widgets).value, definition.IsPlain := by
  intro definition member
  obtain ⟨widget, listed, -, rfl⟩ := mem_definitions_iff.mp member
  exact Widget.definition_plain (words widget listed) (identifiers widget listed)

end WidgetBindings
