import Mathlib.Data.List.Basic
import Mathlib.Data.List.Induction
import WidgetBindings.Proofs.Naming
import WidgetBindings.Widget.Extraction

namespace WidgetBindings

/-! What extraction gathers, said for every widget on its own.

The names come from the functions that introduce widgets, each at the place where it is captured
first. The methods of a widget are the functions that belong to it. Neither depends on the other
widgets, although one pass fills all of them.
-/

namespace Func

/-- The widget that a function introduces: its name is the one of a create function, and it takes
a parent and an object to copy. -/
def introduces? (lib : Text) (func : Func) : Option Text :=
  if func.params.length = 2 then Name.created? lib func.name else none

theorem introduces?_eq_some_iff {lib widget : Text} {func : Func} :
    func.introduces? lib = some widget ↔
      func.params.length = 2 ∧ Name.Creates lib widget func.name := by
  simp only [introduces?, Option.ite_none_right_eq_some, Name.created?_eq_some_iff]

/-- The first parameter takes an object handle. -/
def TakesHandle (func : Func) : Prop :=
  ∃ receiver ∈ func.params.head?, ("lv_obj_t" : Text) <:+: receiver.type.spelling

theorem isMethod_iff {func : Func} : func.isMethod = true ↔ func.TakesHandle := by
  unfold isMethod TakesHandle
  cases func.params with
  | nil => simp
  | cons receiver params =>
      simp only [List.head?_cons, Option.mem_def, Option.some.injEq, exists_eq_left',
        CType.mentionsHandle, Text.holds_iff]

instance (func : Func) : Decidable func.TakesHandle :=
  decidable_of_iff (func.isMethod = true) isMethod_iff

/-- A widget gets every function that takes a handle and starts with the widget's name, behind
which an underscore may be asked for. -/
def BelongsTo (lib : Text) (separated : Bool) (widget : Text) (func : Func) : Prop :=
  func.TakesHandle ∧ lib ++ widget ++ (if separated then ("_" : Text) else []) <+: func.name

instance (lib : Text) (separated : Bool) (widget : Text) (func : Func) :
    Decidable (func.BelongsTo lib separated widget) :=
  inferInstanceAs (Decidable (_ ∧ _))

end Func

theorem createdWidgets_value (lib : Text) (functions : List Func) :
    (createdWidgets lib functions).value = functions.filterMap (Func.introduces? lib) := by
  induction functions with
  | nil => rfl
  | cons func rest ih =>
      cases created : Name.created? lib func.name with
      | none => simp [createdWidgets, Func.introduces?, created, ih]
      | some widget =>
          by_cases arity : func.params.length = 2 <;>
            simp [createdWidgets, createArity, Func.introduces?, created, arity, ih]

/-- The widgets of these names once some functions have been seen. -/
def gathered (lib : Text) (separated : Bool) (names : List Text) (seen : List Func) :
    List Widget :=
  names.map fun name => { name, methods := seen.filter (·.BelongsTo lib separated name) }

theorem Widget.owns_iff {lib : Text} {separated : Bool} {func : Func} {widget : Widget}
    (handle : func.TakesHandle) :
    widget.owns lib separated func = true ↔ func.BelongsTo lib separated widget.name := by
  simp [owns, Name.stem, Func.BelongsTo, handle]

theorem Widget.offer_value {lib : Text} {separated : Bool} {func : Func} (widget : Widget)
    (handle : func.TakesHandle) :
    (widget.offer lib separated func).value =
      { widget with
        methods := widget.methods ++ [func].filter (·.BelongsTo lib separated widget.name) } := by
  by_cases belongs : func.BelongsTo lib separated widget.name
  · simp only [offer, if_pos ((owns_iff handle).mpr belongs)]
    split <;> simp [addMethod, belongs]
  · simp [offer, Bool.eq_false_iff.mpr (mt (owns_iff handle).mp belongs), belongs]

/-- One function reaches all the widgets that it belongs to and leaves the others alone. -/
theorem assign_gathered (lib : Text) (separated : Bool) (names : List Text) (seen : List Func)
    (func : Func) :
    (assign lib separated (gathered lib separated names seen) func).value =
      gathered lib separated names (seen ++ [func]) := by
  by_cases handle : func.TakesHandle
  · simp [assign, gathered, Func.isMethod_iff.mpr handle, Widget.offer_value _ handle]
  · have method : func.isMethod = false := Bool.eq_false_iff.mpr (mt Func.isMethod_iff.mp handle)
    simp [assign, gathered, method, Func.BelongsTo, handle]

theorem foldl_assign_gathered (lib : Text) (separated : Bool) (names : List Text)
    (seen functions : List Func) :
    functions.foldl (fun widgets func => (assign lib separated widgets func).value)
        (gathered lib separated names seen) =
      gathered lib separated names (seen ++ functions) := by
  induction functions generalizing seen with
  | nil => simp
  | cons func rest ih => simp [assign_gathered, ih]

theorem extract_value (lib : Text) (separated : Bool) (functions : List Func) :
    (extract lib separated functions).value =
      gathered lib separated (functions.filterMap (Func.introduces? lib)).eraseDups functions := by
  have start (names : List Text) :
      names.map (fun name => { name : Widget }) = gathered lib separated names [] := rfl
  simp [extract, createdWidgets_value, start, foldl_assign_gathered]

/-- Without duplicates every item stands where it was met first. -/
theorem eraseDups_pairwise_idxOf {α : Type} [BEq α] [LawfulBEq α] (items : List α) :
    items.eraseDups.Pairwise (items.idxOf · < items.idxOf ·) := by
  induction items using List.reverseRecOn with
  | nil => simp
  | append_singleton front last ih =>
      have kept : front.eraseDups.Pairwise
          ((front ++ [last]).idxOf · < (front ++ [last]).idxOf ·) := by
        refine ih.imp_of_mem fun {first second} firstMember secondMember earlier => ?_
        rw [List.idxOf_append_of_mem (List.mem_eraseDups.mp firstMember),
          List.idxOf_append_of_mem (List.mem_eraseDups.mp secondMember)]
        exact earlier
      rw [List.eraseDups_append]
      by_cases met : last ∈ front
      · simpa [List.removeAll, met] using kept
      · refine List.pairwise_append.mpr ⟨kept, by simp [List.removeAll, met, List.eraseDups_cons], ?_⟩
        intro first firstMember second secondMember
        have firstMet : first ∈ front := List.mem_eraseDups.mp firstMember
        obtain rfl : second = last := by simpa [List.removeAll, met] using secondMember
        rw [List.idxOf_append_of_mem firstMet, List.idxOf_append_of_notMem met]
        exact Nat.lt_of_lt_of_le (List.idxOf_lt_length_of_mem firstMet) (Nat.le_add_right _ _)

section Extracted

variable {lib : Text} {separated : Bool} {functions : List Func}

theorem extract_names :
    (extract lib separated functions).value.map Widget.name =
      (functions.filterMap (Func.introduces? lib)).eraseDups := by
  simp only [extract_value, gathered, List.map_map, Function.comp_def, List.map_id']

theorem nodup_extract_names :
    ((extract lib separated functions).value.map Widget.name).Nodup := by
  rw [extract_names]
  refine (eraseDups_pairwise_idxOf _).imp fun earlier same => ?_
  exact absurd (same ▸ earlier) (Nat.lt_irrefl _)

theorem mem_extract_names_iff {name : Text} :
    name ∈ (extract lib separated functions).value.map Widget.name ↔
      ∃ func ∈ functions, func.params.length = 2 ∧ Name.Creates lib name func.name := by
  simp only [extract_names, List.mem_eraseDups, List.mem_filterMap, Func.introduces?_eq_some_iff]

variable {widget : Widget}

theorem methods_of_mem_extract (extracted : widget ∈ (extract lib separated functions).value) :
    widget.methods = functions.filter (·.BelongsTo lib separated widget.name) := by
  rw [extract_value] at extracted
  obtain ⟨name, -, rfl⟩ := List.mem_map.mp extracted
  rfl

theorem mem_methods_iff (extracted : widget ∈ (extract lib separated functions).value)
    {func : Func} :
    func ∈ widget.methods ↔ func ∈ functions ∧ func.BelongsTo lib separated widget.name := by
  rw [methods_of_mem_extract extracted, List.mem_filter, decide_eq_true_iff]

theorem exists_creates_of_mem_extract
    (extracted : widget ∈ (extract lib separated functions).value) :
    ∃ func ∈ functions, func.params.length = 2 ∧ Name.Creates lib widget.name func.name :=
  mem_extract_names_iff.mp (List.mem_map_of_mem extracted)

theorem plain_of_mem_extract (extracted : widget ∈ (extract lib separated functions).value) :
    '_' ∉ widget.name := by
  obtain ⟨_, _, _, _, plain, _⟩ := exists_creates_of_mem_extract extracted
  exact plain

end Extracted

/-- Widgets are named once each, in the order in which the functions first introduce them, and
have exactly the functions that belong to them, wherever in the list these stand. -/
theorem extract_exact (lib : Text) (separated : Bool) (functions : List Func) :
    let widgets := (extract lib separated functions).value
    let captured := functions.filterMap (Func.introduces? lib)
    (widgets.map Widget.name).Nodup ∧
    (∀ name, name ∈ widgets.map Widget.name ↔
      ∃ func ∈ functions, func.params.length = 2 ∧ Name.Creates lib name func.name) ∧
    (widgets.map Widget.name).Pairwise (captured.idxOf · < captured.idxOf ·) ∧
    ∀ widget ∈ widgets,
      widget.methods = functions.filter (·.BelongsTo lib separated widget.name) := by
  intro widgets captured
  have ordered : (widgets.map Widget.name).Pairwise (captured.idxOf · < captured.idxOf ·) := by
    rw [extract_names]
    exact eraseDups_pairwise_idxOf captured
  exact ⟨nodup_extract_names, fun _ => mem_extract_names_iff, ordered,
    fun _ => methods_of_mem_extract⟩

/-- A small interface: two widgets, of which one name starts the other. -/
def buttonApi : List Func :=
  let handle : CType := ⟨"lv_obj_t *"⟩
  [{ name := "lv_btn_set_width", params := [⟨"btn", handle⟩, ⟨"width", ⟨"int32_t"⟩⟩] },
    { name := "lv_btn_create", params := [⟨"parent", handle⟩, ⟨"copy", ⟨"const lv_obj_t *"⟩⟩]
      result := handle },
    { name := "lv_btnmatrix_create"
      params := [⟨"parent", handle⟩, ⟨"copy", ⟨"const lv_obj_t *"⟩⟩], result := handle },
    { name := "lv_btn_get_width", params := [⟨"btn", handle⟩], result := some ⟨"int32_t"⟩ }]

/-- The create function of a widget. -/
def createFunc (widget : Text) : Func :=
  let handle : CType := ⟨"lv_obj_t *"⟩
  { name := "lv_" ++ widget ++ "_create"
    params := [⟨"par", handle⟩, ⟨"copy", ⟨"const lv_obj_t *"⟩⟩], result := handle }

example : (extract "lv_" false buttonApi).value.map (·.methods.map Func.name) =
    ([["lv_btn_set_width", "lv_btn_create", "lv_btnmatrix_create", "lv_btn_get_width"],
      ["lv_btnmatrix_create"]] : List (List Text)) := by
  decide

end WidgetBindings
