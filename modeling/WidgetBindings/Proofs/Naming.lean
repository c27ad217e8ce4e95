import Mathlib.Data.List.TakeWhile
import WidgetBindings.Name
import WidgetBindings.Proofs.Delimited

namespace WidgetBindings

/-! Which widget a function's name refers to.

Widgets found in create functions have no underscore in their names. Behind the library's prefix
the first underscore therefore ends the widget's name, and a name starts with at most one stem
that has its separator.
-/

namespace Name

theorem ne_underscore_of_notMem {name : Text} (plain : '_' ∉ name) :
    ∀ char ∈ name, (char != '_') = true := by
  intro char member
  exact bne_iff_ne.mpr fun same => plain (same ▸ member)

/-- The library's prefix, a widget's name without an underscore, and `_create`; a line feed may
close the name. -/
def Creates (lib widget func : Text) : Prop :=
  widget ≠ [] ∧ '_' ∉ widget ∧
    (func = lib ++ widget ++ "_create" ∨ func = lib ++ widget ++ "_create\n")

instance (lib widget func : Text) : Decidable (Creates lib widget func) :=
  inferInstanceAs (Decidable (_ ∧ _ ∧ _))

/-- A create function stands under the stem of the widget that it names. -/
theorem Creates.stem_prefix {lib widget func : Text} (creates : Creates lib widget func) :
    lib ++ widget ++ ("_" : Text) <+: func := by
  obtain ⟨-, -, rfl | rfl⟩ := creates
  all_goals exact (List.prefix_append_right_inj _).mpr (by decide)

theorem Creates.subset {lib widget func : Text} (creates : Creates lib widget func) :
    widget ⊆ func := by
  obtain ⟨-, -, whole⟩ := creates
  intro char member
  rcases whole with same | same
  all_goals
    rw [same]
    exact List.mem_append_left _ (List.mem_append_right _ member)

theorem creates_of_created? {lib widget func : Text}
    (created : created? lib func = some widget) : Creates lib widget func := by
  unfold created? at created
  cases found : lib.isPrefixOf? func with
  | none => simp only [found, reduceCtorEq] at created
  | some rest =>
      obtain rfl := List.isPrefixOf?_eq_some_iff_append_eq.mp found
      simp only [found, Option.ite_none_right_eq_some, Option.some.injEq] at created
      obtain ⟨⟨nonempty, ending⟩, rfl⟩ := created
      have whole := List.takeWhile_append_dropWhile (p := (· != '_')) (l := rest)
      refine ⟨nonempty, fun member => ?_, ?_⟩
      · simpa using List.mem_takeWhile_imp member
      · rcases ending with ending | ending <;> rw [ending] at whole
        · exact .inl (by rw [List.append_assoc, whole])
        · exact .inr (by rw [List.append_assoc, whole])

theorem isPrefixOf?_append (front rest : Text) : front.isPrefixOf? (front ++ rest) = some rest :=
  List.isPrefixOf?_eq_some_iff_append_eq.mpr rfl

theorem created?_append {lib widget rest : Text} (nonempty : widget ≠ [])
    (plain : '_' ∉ widget)
    (closed : '_' :: rest = ("_create" : Text) ∨ '_' :: rest = ("_create\n" : Text)) :
    created? lib (lib ++ widget ++ '_' :: rest) = some widget := by
  have found : lib.isPrefixOf? (lib ++ widget ++ '_' :: rest) = some (widget ++ '_' :: rest) := by
    rw [List.append_assoc, isPrefixOf?_append]
  have taken : (widget ++ '_' :: rest).takeWhile (· != '_') = widget := by
    simp [List.takeWhile_append_of_pos (ne_underscore_of_notMem plain)]
  have dropped : (widget ++ '_' :: rest).dropWhile (· != '_') = '_' :: rest := by
    simp [List.dropWhile_append_of_pos (ne_underscore_of_notMem plain)]
  simp only [created?, found, taken, dropped]
  exact if_pos ⟨nonempty, closed⟩

theorem created?_eq_some_iff {lib widget func : Text} :
    created? lib func = some widget ↔ Creates lib widget func := by
  refine Iff.intro creates_of_created? fun creates => ?_
  obtain ⟨nonempty, plain, rfl | rfl⟩ := creates
  · exact created?_append nonempty plain (.inl rfl)
  · exact created?_append nonempty plain (.inr rfl)

theorem withinWidget_append (lib widget rest : Text) :
    withinWidget lib widget (lib ++ widget ++ '_' :: rest) = rest := by
  have split : lib ++ widget ++ '_' :: rest = stem lib widget true ++ rest := by simp [stem]
  rw [withinWidget, split, isPrefixOf?_append, Option.getD_some]

theorem withinWidget_stem (lib widget rest : Text) :
    withinWidget lib widget (lib ++ widget ++ ("_" : Text) ++ rest) = rest := by
  rw [List.append_assoc (lib ++ widget)]
  exact withinWidget_append lib widget rest

theorem withinWidget_of_foreign {lib widget func : Text}
    (foreign : ¬ lib ++ widget ++ ("_" : Text) <+: func) :
    withinWidget lib widget func = func := by
  cases found : (stem lib widget true).isPrefixOf? func with
  | none => rw [withinWidget, found, Option.getD_none]
  | some rest =>
      have whole := List.isPrefixOf?_eq_some_iff_append_eq.mp found
      exact absurd ⟨rest, whole⟩ foreign

theorem withinWidget_suffix (lib widget func : Text) : withinWidget lib widget func <:+ func := by
  unfold withinWidget
  cases found : (stem lib widget true).isPrefixOf? func with
  | none => exact List.suffix_refl func
  | some rest => exact ⟨_, List.isPrefixOf?_eq_some_iff_append_eq.mp found⟩

/-- A function without the stem is called `create` within a widget only if that is its name. -/
theorem withinWidget_eq_create_iff {lib widget func : Text} :
    withinWidget lib widget func = ("create" : Text) ↔
      func = lib ++ widget ++ "_create" ∨
        ¬ lib ++ widget ++ ("_" : Text) <+: func ∧ func = ("create" : Text) := by
  by_cases own : lib ++ widget ++ ("_" : Text) <+: func
  · obtain ⟨rest, rfl⟩ := own
    have within := withinWidget_append lib widget rest
    simp only [List.append_assoc] at within ⊢
    simp [within]
  · have other : func ≠ lib ++ widget ++ "_create" := by
      intro same
      exact own ⟨"create", by simp [same]⟩
    simp only [withinWidget_of_foreign own, own, other, not_false_eq_true, true_and, false_or]

/-- A name starts with the separated stem of one widget only. -/
theorem widget_eq_of_prefix {lib first second func : Text} (firstPlain : '_' ∉ first)
    (secondPlain : '_' ∉ second) (firstOwns : lib ++ first ++ ("_" : Text) <+: func)
    (secondOwns : lib ++ second ++ ("_" : Text) <+: func) : first = second := by
  obtain ⟨firstRest, rfl⟩ := firstOwns
  obtain ⟨secondRest, same⟩ := secondOwns
  simp only [List.append_assoc] at same
  have behind := List.append_cancel_left same
  exact (eq_of_append_delimiter secondPlain firstPlain behind).1.symm

end Name

end WidgetBindings
