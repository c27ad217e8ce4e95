import Mathlib.Data.List.Lex
import Mathlib.Data.List.Nodup
import WidgetBindings.Proofs.Definition

namespace WidgetBindings

/-! The order in which a module lists its widgets.

Names are ordered by code points, and widgets of one name stay in the order in which they came.
There is only one such list, and sorting finds it. Widgets with different names have one order,
whatever order they come in.
-/

namespace Text

/-- The first code points that differ decide, and a text comes before its continuations. -/
def Precedes : Text → Text → Prop :=
  List.Lex fun char other => char.toNat < other.toNat

instance : DecidableRel Precedes := fun first second =>
  inferInstanceAs (Decidable (List.Lex (fun char other => char.toNat < other.toNat) first second))

variable {first second third : Text}

theorem Precedes.trans (below : Precedes first second) (above : Precedes second third) :
    Precedes first third :=
  List.lex_trans Nat.lt_trans below above

theorem Precedes.asymm (below : Precedes first second) : ¬ Precedes second first :=
  List.lex_asymm Nat.lt_asymm below

theorem eq_of_not_precedes (notBelow : ¬ Precedes first second)
    (notAbove : ¬ Precedes second first) : first = second :=
  List.lex_trichotomous
    (fun _ _ notLess notGreater =>
      Char.toNat_inj.mp (Nat.le_antisymm (Nat.not_lt.mp notGreater) (Nat.not_lt.mp notLess)))
    notAbove notBelow

theorem atMost_iff : atMost first second = true ↔ first = second ∨ Precedes first second := by
  induction first generalizing second with
  | nil =>
      cases second with
      | nil => exact iff_of_true rfl (.inl rfl)
      | cons other more => exact iff_of_true rfl (.inr .nil)
  | cons char rest ih =>
      cases second with
      | nil => exact iff_of_false nofun (fun either => either.elim nofun nofun)
      | cons other more =>
          simp only [atMost, Bool.or_eq_true, Bool.and_eq_true, decide_eq_true_eq, beq_iff_eq, ih,
            Precedes, List.cons_lex_cons_iff, List.cons.injEq, and_or_left, or_left_comm]

theorem atMost_total (first second : Text) :
    (atMost first second || atMost second first) = true := by
  simp only [Bool.or_eq_true, atMost_iff]
  by_cases below : Precedes first second
  · exact .inl (.inr below)
  · by_cases above : Precedes second first
    · exact .inr (.inr above)
    · exact .inl (.inl (eq_of_not_precedes below above))

theorem atMost_trans (below : atMost first second = true) (above : atMost second third = true) :
    atMost first third = true := by
  rw [atMost_iff] at below above ⊢
  rcases below with rfl | below
  · exact above
  · rcases above with rfl | above
    · exact .inr below
    · exact .inr (below.trans above)

theorem atMost_antisymm (below : atMost first second = true)
    (above : atMost second first = true) : first = second := by
  rw [atMost_iff] at below above
  rcases below with same | below
  · exact same
  · exact above.elim Eq.symm fun above => absurd above below.asymm

end Text

/-- The widgets of a list in the order of their names. Those of one name stay in their order. -/
structure OrderedByName (widgets ordered : List Widget) : Prop where
  perm : ordered.Perm widgets
  increasing : ordered.Pairwise fun first second =>
    first.name = second.name ∨ Text.Precedes first.name second.name
  stable : ∀ name, ordered.filter (·.name = name) = widgets.filter (·.name = name)

variable {widgets first second : List Widget}

theorem sortedByName_pairwise (widgets : List Widget) :
    (sortedByName widgets).Pairwise fun first second =>
      Text.atMost first.name second.name = true := by
  refine List.pairwise_mergeSort (fun first second third => ?_) (fun first second => ?_) widgets
  · exact Text.atMost_trans
  · exact Text.atMost_total first.name second.name

/-- Widgets of one name stand in order as they come, and sorting keeps what stands in order. -/
theorem filter_sortedByName (widgets : List Widget) (name : Text) :
    (sortedByName widgets).filter (·.name = name) = widgets.filter (·.name = name) := by
  have alike : (widgets.filter (·.name = name)).Pairwise fun first second =>
      Text.atMost first.name second.name = true := by
    refine List.pairwise_of_forall_mem_list fun first inFirst second inSecond => ?_
    have firstName := of_decide_eq_true (List.mem_filter.mp inFirst).2
    have secondName := of_decide_eq_true (List.mem_filter.mp inSecond).2
    exact Text.atMost_iff.mpr (.inl (firstName.trans secondName.symm))
  have inOrder : (widgets.filter (·.name = name)).Sublist (sortedByName widgets) := by
    refine List.sublist_mergeSort (fun first second third => ?_) (fun first second => ?_) alike
      List.filter_sublist
    · exact Text.atMost_trans
    · exact Text.atMost_total first.name second.name
  have kept := inOrder.filter (·.name = name)
  rw [List.filter_filter, funext fun widget : Widget => Bool.and_self _] at kept
  exact (kept.eq_of_length ((sortedByName_perm widgets).filter _).length_eq.symm).symm

theorem orderedByName_sortedByName (widgets : List Widget) :
    OrderedByName widgets (sortedByName widgets) where
  perm := sortedByName_perm widgets
  increasing := (sortedByName_pairwise widgets).imp Text.atMost_iff.mp
  stable := filter_sortedByName widgets

theorem mem_of_filter_eq
    (alike : ∀ name, first.filter (·.name = name) = second.filter (·.name = name)) {widget : Widget}
    (member : widget ∈ first) : widget ∈ second := by
  have kept : widget ∈ first.filter (·.name = widget.name) :=
    List.mem_filter.mpr ⟨member, decide_eq_true rfl⟩
  rw [alike] at kept
  exact List.mem_of_mem_filter kept

/-- Each of the first widgets stands at the other's place or behind it. -/
theorem head_eq_of_filter_eq {widget other : Widget} {rest more : List Widget}
    (belowRest : ∀ later ∈ rest, Text.atMost widget.name later.name = true)
    (belowMore : ∀ later ∈ more, Text.atMost other.name later.name = true)
    (alike : ∀ name,
      (widget :: rest).filter (·.name = name) = (other :: more).filter (·.name = name)) :
    widget = other := by
  have named : widget.name = other.name := by
    have inSecond := mem_of_filter_eq alike List.mem_cons_self
    have inFirst := mem_of_filter_eq (fun name => (alike name).symm) List.mem_cons_self
    rcases List.mem_cons.mp inSecond with same | later
    · rw [same]
    · rcases List.mem_cons.mp inFirst with same | otherLater
      · rw [same]
      · exact Text.atMost_antisymm (belowRest other otherLater) (belowMore widget later)
  have fronts := alike other.name
  simp only [List.filter_cons, named, decide_true, if_true, List.cons.injEq] at fronts
  exact fronts.1

/-- The first widgets agree, and without them the lists are again of this kind. -/
theorem eq_of_filter_eq
    (firstIncreasing : first.Pairwise fun one other => Text.atMost one.name other.name = true)
    (secondIncreasing : second.Pairwise fun one other => Text.atMost one.name other.name = true)
    (alike : ∀ name, first.filter (·.name = name) = second.filter (·.name = name)) :
    first = second := by
  induction first generalizing second with
  | nil =>
      refine (List.eq_nil_iff_forall_not_mem.mpr fun widget member => ?_).symm
      exact absurd (mem_of_filter_eq (fun name => (alike name).symm) member) List.not_mem_nil
  | cons widget rest ih =>
      cases second with
      | nil => exact absurd (mem_of_filter_eq alike List.mem_cons_self) List.not_mem_nil
      | cons other more =>
          obtain ⟨belowRest, restIncreasing⟩ := List.pairwise_cons.mp firstIncreasing
          obtain ⟨belowMore, moreIncreasing⟩ := List.pairwise_cons.mp secondIncreasing
          obtain rfl := head_eq_of_filter_eq belowRest belowMore alike
          have behind (name : Text) :
              rest.filter (·.name = name) = more.filter (·.name = name) := by
            have whole := alike name
            rw [List.filter_cons, List.filter_cons] at whole
            split at whole
            · exact (List.cons.inj whole).2
            · exact whole
          rw [ih restIncreasing moreIncreasing behind]

/-- Sorting finds the one list that is in order. -/
theorem orderedByName_iff {ordered : List Widget} :
    OrderedByName widgets ordered ↔ ordered = sortedByName widgets := by
  refine Iff.intro (fun order => ?_) (fun same => same ▸ orderedByName_sortedByName widgets)
  refine eq_of_filter_eq (order.increasing.imp Text.atMost_iff.mpr)
    (sortedByName_pairwise widgets) fun name => ?_
  rw [order.stable, filter_sortedByName]

theorem OrderedByName.unique {ordered other : List Widget} (order : OrderedByName widgets ordered)
    (otherOrder : OrderedByName widgets other) : ordered = other :=
  (orderedByName_iff.mp order).trans (orderedByName_iff.mp otherOrder).symm

theorem eq_sortedByName_of_nodup {ordered : List Widget} (perm : ordered.Perm widgets)
    (increasing : ordered.Pairwise fun one other => Text.atMost one.name other.name = true)
    (distinct : (widgets.map Widget.name).Nodup) : ordered = sortedByName widgets := by
  have both : ordered.Perm (sortedByName widgets) := perm.trans (sortedByName_perm widgets).symm
  refine List.Perm.eq_of_pairwise ?_ increasing (sortedByName_pairwise widgets) both
  intro widget other inOrdered inSorted below above
  have listed : widget ∈ widgets := perm.mem_iff.mp inOrdered
  have otherListed : other ∈ widgets := (sortedByName_perm widgets).mem_iff.mp inSorted
  exact List.inj_on_of_nodup_map distinct listed otherListed (Text.atMost_antisymm below above)

theorem sortedByName_eq_of_perm (reordered : first.Perm second)
    (distinct : (first.map Widget.name).Nodup) : sortedByName first = sortedByName second :=
  eq_sortedByName_of_nodup ((sortedByName_perm first).trans reordered)
    (sortedByName_pairwise first) ((reordered.map Widget.name).nodup_iff.mp distinct)

theorem OrderedByName.of_nodup {ordered : List Widget} (perm : ordered.Perm widgets)
    (increasing : ordered.Pairwise fun one other =>
      one.name = other.name ∨ Text.Precedes one.name other.name)
    (distinct : (widgets.map Widget.name).Nodup) : OrderedByName widgets ordered :=
  orderedByName_iff.mpr
    (eq_sortedByName_of_nodup perm (increasing.imp Text.atMost_iff.mpr) distinct)

/-- A module depends on which widgets there are, and not on their order. -/
theorem generateModule_eq_of_perm (lib : Text) (reordered : first.Perm second)
    (distinct : (first.map Widget.name).Nodup) :
    generateModule lib first = generateModule lib second := by
  unfold generateModule definitions
  rw [sortedByName_eq_of_perm reordered distinct]

end WidgetBindings
