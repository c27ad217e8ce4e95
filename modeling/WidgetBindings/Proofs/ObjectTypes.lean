import Mathlib.Data.List.Nodup
import WidgetBindings.Proofs.Definition
import WidgetBindings.Proofs.Extraction
import WidgetBindings.Proofs.Pascal

namespace WidgetBindings

/-! The object types that a module defines.

Widgets are kept apart by their C names, and the base object is left out by its C name. The types
are named in Pascal case, where the case of the first letter is lost: two widgets may share a
type, and the type of the base object may come from another widget.
-/

/-- The types in the order in which a module defines them. -/
def objects (lib : Text) (widgets : List Widget) : List Text :=
  (definitions lib widgets).value.map Definition.object

theorem objects_eq (lib : Text) (widgets : List Widget) :
    objects lib widgets =
      ((sortedByName widgets).filter (!·.isBase)).map fun widget => Name.pascal widget.name := by
  unfold objects
  rw [definitions_value, List.map_map]
  rfl

theorem objects_perm (lib : Text) (widgets : List Widget) :
    (objects lib widgets).Perm
      ((widgets.filter (!·.isBase)).map fun widget => Name.pascal widget.name) := by
  rw [objects_eq]
  exact ((sortedByName_perm widgets).filter _).map _

theorem mem_objects_iff {lib object : Text} {widgets : List Widget} :
    object ∈ objects lib widgets ↔
      ∃ widget ∈ widgets, widget.name ≠ ("obj" : Text) ∧ Name.pascal widget.name = object := by
  simp only [(objects_perm lib widgets).mem_iff, List.mem_map, Widget.mem_filter_isBase_iff,
    and_assoc]

section Extracted

variable {lib : Text} {separated : Bool} {functions : List Func}

/-- A widget's name stands between two underscores of an identifier. -/
theorem characters_of_mem_extract
    (identifiers : ∀ func ∈ functions, Name.isIdentifier func.name = true) {widget : Widget}
    (extracted : widget ∈ (extract lib separated functions).value) :
    (∀ char ∈ widget.name, Name.isIdentifierChar char = true) ∧ '_' ∉ widget.name := by
  obtain ⟨func, listed, -, creates⟩ := exists_creates_of_mem_extract extracted
  refine ⟨fun char member => ?_, creates.2.1⟩
  exact Name.isIdentifierChar_of_mem (identifiers func listed) char (creates.subset member)

theorem word_of_mem_extract
    (identifiers : ∀ func ∈ functions, Name.isIdentifier func.name = true) {widget : Widget}
    (extracted : widget ∈ (extract lib separated functions).value) :
    Name.IsWord widget.name ∧ '_' ∉ widget.name :=
  (characters_of_mem_extract identifiers extracted).imp_left Name.isWord_of_forall_mem

theorem pascal_eq_iff_of_mem_extract
    (identifiers : ∀ func ∈ functions, Name.isIdentifier func.name = true) {first second : Widget}
    (firstExtracted : first ∈ (extract lib separated functions).value)
    (secondExtracted : second ∈ (extract lib separated functions).value) :
    Name.pascal first.name = Name.pascal second.name ↔
      Name.AgreeUpToInitial first.name second.name := by
  obtain ⟨firstWord, firstPlain⟩ := word_of_mem_extract identifiers firstExtracted
  obtain ⟨secondWord, secondPlain⟩ := word_of_mem_extract identifiers secondExtracted
  exact Name.pascal_eq_iff firstWord firstPlain secondWord secondPlain

theorem nodup_objects_iff
    (identifiers : ∀ func ∈ functions, Name.isIdentifier func.name = true) :
    (objects lib (extract lib separated functions).value).Nodup ↔
      ∀ first ∈ (extract lib separated functions).value,
        ∀ second ∈ (extract lib separated functions).value,
          first.name ≠ ("obj" : Text) → second.name ≠ ("obj" : Text) →
          Name.AgreeUpToInitial first.name second.name → first.name = second.name := by
  have kept : ((extract lib separated functions).value.filter (!·.isBase)).Nodup :=
    (List.Nodup.of_map _ nodup_extract_names).filter _
  rw [(objects_perm lib _).nodup_iff, List.nodup_map_iff_inj_on kept]
  simp only [Widget.mem_filter_isBase_iff]
  refine Iff.intro ?_ ?_
  · intro injective first firstExtracted second secondExtracted firstOther secondOther agree
    have sameType := (pascal_eq_iff_of_mem_extract identifiers firstExtracted secondExtracted).mpr
      agree
    rw [injective first ⟨firstExtracted, firstOther⟩ second ⟨secondExtracted, secondOther⟩ sameType]
  · intro apart first ⟨firstExtracted, firstOther⟩ second ⟨secondExtracted, secondOther⟩ sameType
    have agree := (pascal_eq_iff_of_mem_extract identifiers firstExtracted secondExtracted).mp
      sameType
    exact List.inj_on_of_nodup_map nodup_extract_names firstExtracted secondExtracted
      (apart first firstExtracted second secondExtracted firstOther secondOther agree)

theorem base_mem_objects_iff
    (identifiers : ∀ func ∈ functions, Name.isIdentifier func.name = true) :
    ("Obj" : Text) ∈ objects lib (extract lib separated functions).value ↔
      ∃ widget ∈ (extract lib separated functions).value, widget.name = ("Obj" : Text) := by
  rw [mem_objects_iff]
  refine exists_congr fun widget => and_congr_right fun extracted => ?_
  obtain ⟨word, plain⟩ := word_of_mem_extract identifiers extracted
  have origin : Name.pascal widget.name = ("Obj" : Text) ↔
      widget.name = ("Obj" : Text) ∨ widget.name = ("obj" : Text) :=
    Name.pascal_eq_cons_iff word plain (by decide) (by decide)
  rw [origin]
  refine Iff.intro (fun ⟨other, either⟩ => either.resolve_right other) (fun same => ?_)
  exact ⟨by simp [same], .inl same⟩

/-- The types are different as long as no two widgets differ in the case of the first letter only,
and the base object is defined again only for a widget of just that name. -/
theorem objects_exact (identifiers : ∀ func ∈ functions, Name.isIdentifier func.name = true) :
    let widgets := (extract lib separated functions).value
    ((objects lib widgets).Nodup ↔
      ∀ first ∈ widgets, ∀ second ∈ widgets, first.name ≠ ("obj" : Text) →
        second.name ≠ ("obj" : Text) → Name.AgreeUpToInitial first.name second.name →
        first.name = second.name) ∧
    (("Obj" : Text) ∈ objects lib widgets ↔
      ∃ widget ∈ widgets, widget.name = ("Obj" : Text)) :=
  ⟨nodup_objects_iff identifiers, base_mem_objects_iff identifiers⟩

theorem objects_exact_button :
    (∀ func ∈ buttonApi, Name.isIdentifier func.name = true) ∧
      (objects "lv_" (extract "lv_" false buttonApi).value).Nodup ∧
      ("Obj" : Text) ∉ objects "lv_" (extract "lv_" false buttonApi).value := by
  have identifiers : ∀ func ∈ buttonApi, Name.isIdentifier func.name = true := by decide
  exact ⟨identifiers, (objects_exact identifiers).1.mpr (by decide),
    mt (objects_exact identifiers).2.mp (by decide)⟩

end Extracted

/-- A widget of the base object's type name is not left out. -/
theorem objects_base_again :
    (∀ func ∈ [createFunc "Obj"], Name.isIdentifier func.name = true) ∧
      ("Obj" : Text) ∈ objects "lv_" (extract "lv_" false [createFunc "Obj"]).value :=
  ⟨by decide, (objects_perm "lv_" _).mem_iff.mpr (by decide)⟩

example : ¬ (objects "lv_"
    (extract "lv_" false [createFunc "btn", createFunc "Btn"]).value).Nodup :=
  mt (objects_perm "lv_" _).nodup_iff.mp (by decide)

end WidgetBindings
