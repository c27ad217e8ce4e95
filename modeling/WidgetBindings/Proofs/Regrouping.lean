import WidgetBindings.Proofs.Overlaps

namespace WidgetBindings

/-! Extraction from functions that stand grouped by widget.

The methods of the widgets, one widget behind the other, make a list of functions again. With the
separator no function is claimed by two widgets, so extraction gives every method back to the widget
it came from. A widget comes back if a function that introduces it is a method, because the other
functions have been left behind.
-/

section Groups

variable {α β : Type}

theorem eraseDups_of_forall_eq [BEq β] [LawfulBEq β] {key : β} {copies : List β}
    (same : ∀ copy ∈ copies, copy = key) (nonempty : copies ≠ []) : copies.eraseDups = [key] := by
  obtain ⟨first, rest, rfl⟩ := List.exists_cons_of_ne_nil nonempty
  obtain ⟨rfl, others⟩ := List.forall_mem_cons.mp same
  have again : rest.filter (fun copy => !copy == first) = [] :=
    List.filter_eq_nil_iff.mpr fun copy member => by simp [others copy member]
  rw [List.eraseDups_cons, again, List.eraseDups_nil]

/-- Every group repeats a key of its own, and leaves one copy of it unless the group is empty. -/
theorem eraseDups_flatMap [BEq β] [LawfulBEq β] {groups : List α} {key : α → β}
    {copies : α → List β} (distinct : (groups.map key).Nodup)
    (same : ∀ group ∈ groups, ∀ copy ∈ copies group, copy = key group) :
    (groups.flatMap copies).eraseDups =
      (groups.filter fun group => copies group ≠ []).map key := by
  induction groups with
  | nil => rfl
  | cons group rest ih =>
      obtain ⟨alone, restDistinct⟩ := List.nodup_cons.mp distinct
      obtain ⟨head, later⟩ := List.forall_mem_cons.mp same
      have tail := ih restDistinct later
      by_cases empty : copies group = []
      · simpa [empty] using tail
      · have foreign : (rest.flatMap copies).removeAll (copies group) = rest.flatMap copies := by
          refine List.filter_eq_self.mpr fun copy member => ?_
          obtain ⟨other, listed, inside⟩ := List.mem_flatMap.mp member
          have absent : copy ∉ copies group := by
            intro shared
            have clash : key other = key group :=
              (later other listed copy inside).symm.trans (head copy shared)
            exact alone (clash ▸ List.mem_map_of_mem listed)
          simpa using absent
        rw [List.flatMap_cons, List.eraseDups_append, foreign, tail,
          eraseDups_of_forall_eq head empty]
        simp [empty]

/-- What belongs to one group and to no other is found there. -/
theorem filter_flatMap_group {groups : List α} {group : α} {members : α → List β}
    {belongs : β → Bool} (distinct : groups.Nodup) (listed : group ∈ groups)
    (own : ∀ member ∈ members group, belongs member = true)
    (foreign : ∀ other ∈ groups, other ≠ group → ∀ member ∈ members other,
      belongs member = false) :
    (groups.flatMap members).filter belongs = members group := by
  obtain ⟨before, after, rfl⟩ := List.append_of_mem listed
  have apart : ∀ other ∈ before ++ after, other ≠ group := by
    have moved := List.nodup_middle.mp distinct
    exact fun other member same => (List.nodup_cons.mp moved).1 (same ▸ member)
  have silent : ∀ others, others ⊆ before ++ after →
      (others.flatMap members).filter belongs = [] := by
    intro others within
    refine List.filter_eq_nil_iff.mpr fun member inside => ?_
    obtain ⟨other, otherListed, otherInside⟩ := List.mem_flatMap.mp inside
    have still : other ∈ before ++ group :: after := by
      rcases List.mem_append.mp (within otherListed) with inFront | behind
      · exact List.mem_append_left _ inFront
      · exact List.mem_append_right _ (List.mem_cons_of_mem _ behind)
    simp [foreign other still (apart other (within otherListed)) member otherInside]
  rw [List.flatMap_append, List.flatMap_cons, List.filter_append, List.filter_append,
    silent before (List.subset_append_left _ _), silent after (List.subset_append_right _ _),
    List.filter_eq_self.mpr own, List.nil_append, List.append_nil]

end Groups

namespace Func

variable {lib widget other : Text} {func : Func}

theorem belongsTo_of_creates (handle : func.TakesHandle)
    (creates : Name.Creates lib widget func.name) : func.BelongsTo lib true widget :=
  ⟨handle, creates.stem_prefix⟩

theorem introduces?_eq_of_belongsTo (plain : '_' ∉ widget)
    (belongs : func.BelongsTo lib true widget) (introduces : func.introduces? lib = some other) :
    other = widget := by
  obtain ⟨-, creates⟩ := introduces?_eq_some_iff.mp introduces
  exact Name.widget_eq_of_prefix creates.2.1 plain creates.stem_prefix belongs.2

end Func

namespace Widget

/-- Some function that introduces the widget is a method as well. -/
def IsKept (lib : Text) (functions : List Func) (widget : Widget) : Prop :=
  ∃ func ∈ functions, func.params.length = 2 ∧ Name.Creates lib widget.name func.name ∧
    func.TakesHandle

instance (lib : Text) (functions : List Func) (widget : Widget) :
    Decidable (widget.IsKept lib functions) :=
  inferInstanceAs (Decidable (∃ func ∈ functions, _))

end Widget

/-- The functions of the widgets, one widget behind the other. -/
def regrouped (widgets : List Widget) : List Func :=
  widgets.flatMap Widget.methods

section Extracted

variable {lib : Text} {functions : List Func} {widget : Widget}

theorem nodup_extract {separated : Bool} : (extract lib separated functions).value.Nodup :=
  List.Nodup.of_map Widget.name nodup_extract_names

theorem introduces?_eq_of_mem_methods (extracted : widget ∈ (extract lib true functions).value)
    {func : Func} (method : func ∈ widget.methods) {name : Text}
    (introduces : func.introduces? lib = some name) : name = widget.name :=
  Func.introduces?_eq_of_belongsTo (plain_of_mem_extract extracted)
    ((mem_methods_iff extracted).mp method).2 introduces

theorem isKept_iff_of_mem_extract (extracted : widget ∈ (extract lib true functions).value) :
    widget.methods.filterMap (Func.introduces? lib) ≠ [] ↔ widget.IsKept lib functions := by
  refine Iff.intro (fun nonempty => ?_) fun ⟨func, listed, arity, creates, handle⟩ => ?_
  · obtain ⟨name, member⟩ := List.exists_mem_of_ne_nil _ nonempty
    obtain ⟨func, method, introduces⟩ := List.mem_filterMap.mp member
    obtain rfl := introduces?_eq_of_mem_methods extracted method introduces
    obtain ⟨arity, creates⟩ := Func.introduces?_eq_some_iff.mp introduces
    obtain ⟨listed, belongs⟩ := (mem_methods_iff extracted).mp method
    exact ⟨func, listed, arity, creates, belongs.1⟩
  · have method : func ∈ widget.methods :=
      (mem_methods_iff extracted).mpr ⟨listed, Func.belongsTo_of_creates handle creates⟩
    have introduces := Func.introduces?_eq_some_iff.mpr ⟨arity, creates⟩
    exact List.ne_nil_of_mem (List.mem_filterMap.mpr ⟨func, method, introduces⟩)

/-- The functions of a widget are the same in the regrouped list. -/
theorem filter_regrouped (extracted : widget ∈ (extract lib true functions).value) :
    (regrouped (extract lib true functions).value).filter (·.BelongsTo lib true widget.name) =
      widget.methods := by
  refine filter_flatMap_group nodup_extract extracted (fun func method => ?_) ?_
  · exact decide_eq_true ((mem_methods_iff extracted).mp method).2
  · intro other otherExtracted different func method
    refine decide_eq_false fun belongs => ?_
    have otherBelongs := ((mem_methods_iff otherExtracted).mp method).2
    have same := Name.widget_eq_of_prefix (plain_of_mem_extract otherExtracted)
      (plain_of_mem_extract extracted) otherBelongs.2 belongs.2
    exact name_ne_of_mem_extract otherExtracted extracted different same

theorem extract_regrouped (lib : Text) (functions : List Func) :
    (extract lib true (regrouped (extract lib true functions).value)).value =
      (extract lib true functions).value.filter (·.IsKept lib functions) := by
  have kept : ((extract lib true functions).value.filter fun widget =>
        widget.methods.filterMap (Func.introduces? lib) ≠ []) =
      (extract lib true functions).value.filter (·.IsKept lib functions) :=
    List.filter_congr fun widget extracted =>
      decide_eq_decide.mpr (isKept_iff_of_mem_extract extracted)
  have names : ((regrouped (extract lib true functions).value).filterMap
        (Func.introduces? lib)).eraseDups =
      ((extract lib true functions).value.filter (·.IsKept lib functions)).map Widget.name := by
    rw [regrouped, List.filterMap_flatMap, eraseDups_flatMap nodup_extract_names, kept]
    intro widget extracted name member
    obtain ⟨func, method, introduces⟩ := List.mem_filterMap.mp member
    exact introduces?_eq_of_mem_methods extracted method introduces
  have whole : ∀ widget ∈ (extract lib true functions).value.filter (·.IsKept lib functions),
      (⟨widget.name, (regrouped (extract lib true functions).value).filter
        (·.BelongsTo lib true widget.name)⟩ : Widget) = widget :=
    fun widget member => by rw [filter_regrouped (List.mem_of_mem_filter member)]
  rw [extract_value, names, gathered, List.map_map]
  exact (List.map_congr_left whole).trans (List.map_id _)

theorem isKept_regrouped (extracted : widget ∈ (extract lib true functions).value)
    (kept : widget.IsKept lib functions) :
    widget.IsKept lib (regrouped (extract lib true functions).value) := by
  obtain ⟨func, listed, arity, creates, handle⟩ := kept
  have method : func ∈ widget.methods :=
    (mem_methods_iff extracted).mpr ⟨listed, Func.belongsTo_of_creates handle creates⟩
  exact ⟨func, List.mem_flatMap.mpr ⟨widget, extracted, method⟩, arity, creates, handle⟩

/-- In strict mode extraction from the methods that it has found gives back the widgets that some
method introduces, in the same order and with the same methods. From then on it changes nothing. -/
theorem extract_projection (lib : Text) (functions : List Func) :
    let widgets := (extract lib true functions).value
    let again := (extract lib true (widgets.flatMap Widget.methods)).value
    again = widgets.filter (fun widget =>
      ∃ func ∈ functions, func.params.length = 2 ∧ Name.Creates lib widget.name func.name ∧
        func.TakesHandle) ∧
    (extract lib true (again.flatMap Widget.methods)).value = again := by
  intro widgets again
  have first : again = widgets.filter (·.IsKept lib functions) := extract_regrouped lib functions
  refine ⟨first, (extract_regrouped lib (regrouped widgets)).trans ?_⟩
  refine List.filter_eq_self.mpr fun widget member => decide_eq_true ?_
  have inFirst : widget ∈ widgets.filter (·.IsKept lib functions) := first ▸ member
  obtain ⟨extracted, kept⟩ := List.mem_filter.mp inFirst
  exact isKept_regrouped extracted (of_decide_eq_true kept)

/-- A create function that takes no handle introduces a widget only as long as it is there. -/
example :
    let functions : List Func :=
      [{ name := "lv_tab_create", params := [⟨"width", ⟨"int32_t"⟩⟩, ⟨"height", ⟨"int32_t"⟩⟩] },
        { name := "lv_tab_show", params := [⟨"tab", ⟨"lv_obj_t *"⟩⟩] }]
    (extract "lv_" true functions).value = [⟨"tab", functions.drop 1⟩] ∧
      (extract "lv_" true (functions.drop 1)).value = [] := by
  decide

end Extracted

end WidgetBindings
