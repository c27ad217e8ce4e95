import WidgetBindings.Proofs.Extraction

namespace WidgetBindings

/-! The same library under another prefix.

The prefix in front of every name is plain text and takes no part in what is found behind it. When it
is replaced in all names, extraction with the new prefix finds the widgets that it found before, and
they have the renamed functions as their methods.
-/

namespace Name

/-- The name with another prefix in the place of the library's own, which it starts with. -/
def relabel (lib other name : Text) : Text :=
  other ++ name.drop lib.length

variable {lib other name : Text}

theorem relabel_append (lib other rest : Text) : relabel lib other (lib ++ rest) = other ++ rest := by
  rw [relabel, List.drop_left]

theorem created?_relabel (owned : lib <+: name) :
    created? other (relabel lib other name) = created? lib name := by
  obtain ⟨rest, rfl⟩ := owned
  rw [relabel_append]
  unfold created?
  rw [isPrefixOf?_append, isPrefixOf?_append]

theorem prefix_relabel_iff (owned : lib <+: name) (part : Text) :
    other ++ part <+: relabel lib other name ↔ lib ++ part <+: name := by
  obtain ⟨rest, rfl⟩ := owned
  rw [relabel_append, List.prefix_append_right_inj, List.prefix_append_right_inj]

theorem withinWidget_relabel {widget : Text} (owned : lib ++ widget ++ ("_" : Text) <+: name) :
    withinWidget other widget (relabel lib other name) = withinWidget lib widget name := by
  obtain ⟨rest, rfl⟩ := owned
  have relabelled : relabel lib other (lib ++ widget ++ ("_" : Text) ++ rest) =
      other ++ widget ++ ("_" : Text) ++ rest := by
    simp only [List.append_assoc, relabel_append]
  rw [relabelled, withinWidget_stem, withinWidget_stem]

end Name

namespace Func

def relabel (lib other : Text) (func : Func) : Func :=
  { func with name := Name.relabel lib other func.name }

variable {lib other : Text} {func : Func}

theorem introduces?_relabel (owned : lib <+: func.name) :
    (func.relabel lib other).introduces? other = func.introduces? lib := by
  unfold introduces?
  exact congrArg (fun created => if func.params.length = 2 then created else none)
    (Name.created?_relabel owned)

theorem belongsTo_relabel_iff (owned : lib <+: func.name) (separated : Bool) (widget : Text) :
    (func.relabel lib other).BelongsTo other separated widget ↔
      func.BelongsTo lib separated widget := by
  unfold BelongsTo
  rw [List.append_assoc, List.append_assoc]
  exact and_congr_right fun _ => Name.prefix_relabel_iff owned _

end Func

def Widget.relabel (lib other : Text) (widget : Widget) : Widget :=
  { widget with methods := widget.methods.map (Func.relabel lib other) }

section Extracted

variable {lib : Text} {functions : List Func}

theorem extract_relabel (owned : ∀ func ∈ functions, lib <+: func.name) (other : Text)
    (separated : Bool) :
    (extract other separated (functions.map (Func.relabel lib other))).value =
      (extract lib separated functions).value.map (Widget.relabel lib other) := by
  have introduced : (functions.map (Func.relabel lib other)).filterMap (Func.introduces? other) =
      functions.filterMap (Func.introduces? lib) := by
    rw [List.filterMap_map]
    exact List.filterMap_congr fun func listed => Func.introduces?_relabel (owned func listed)
  have methods (name : Text) :
      (functions.map (Func.relabel lib other)).filter (·.BelongsTo other separated name) =
        (functions.filter (·.BelongsTo lib separated name)).map (Func.relabel lib other) := by
    rw [List.filter_map]
    refine congrArg (List.map (Func.relabel lib other)) (List.filter_congr fun func listed => ?_)
    exact decide_eq_decide.mpr (Func.belongsTo_relabel_iff (owned func listed) separated name)
  simp only [extract_value, gathered, introduced, methods, List.map_map]
  rfl

/-- A change of the prefix in all names changes the names of the methods and nothing else: not the
widgets, nor their order, nor the order of the methods. In strict mode the methods keep their names
within the widget, whatever characters the prefixes consist of. -/
theorem extract_relabelled (owned : ∀ func ∈ functions, lib <+: func.name) (other : Text) :
    (∀ separated, (extract other separated (functions.map (Func.relabel lib other))).value =
      (extract lib separated functions).value.map (Widget.relabel lib other)) ∧
    ∀ widget ∈ (extract lib true functions).value, ∀ func ∈ widget.methods,
      Name.withinWidget other widget.name (func.relabel lib other).name =
        Name.withinWidget lib widget.name func.name := by
  refine ⟨extract_relabel owned other, fun widget extracted func method => ?_⟩
  obtain ⟨-, belongs⟩ := (mem_methods_iff extracted).mp method
  exact Name.withinWidget_relabel belongs.2

/-- A prefix that reads like a pattern of names of create functions. -/
theorem extract_relabelled_button :
    let other : Text := "^(.*_create|["
    (∀ func ∈ buttonApi, ("lv_" : Text) <+: func.name) ∧
      (extract other false (buttonApi.map (Func.relabel "lv_" other))).value =
        (extract "lv_" false buttonApi).value.map (Widget.relabel "lv_" other) ∧
      (extract "lv_" true buttonApi).value.map (·.methods.map Func.name) =
        ([["lv_btn_set_width", "lv_btn_create", "lv_btn_get_width"], ["lv_btnmatrix_create"]] :
          List (List Text)) ∧
      ∀ widget ∈ (extract "lv_" true buttonApi).value, ∀ func ∈ widget.methods,
        Name.withinWidget other widget.name (func.relabel "lv_" other).name =
          Name.withinWidget "lv_" widget.name func.name := by
  intro other
  have owned : ∀ func ∈ buttonApi, ("lv_" : Text) <+: func.name := by decide
  obtain ⟨renamed, within⟩ := extract_relabelled owned other
  exact ⟨owned, renamed false, by decide, within⟩

end Extracted

end WidgetBindings
