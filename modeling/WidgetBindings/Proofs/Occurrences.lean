import Mathlib.Algebra.GroupWithZero.Nat
import Mathlib.Data.List.Infix
import WidgetBindings.Text.Basic

namespace WidgetBindings.Text

/-! How often a pattern stands in a text.

A text can be cut where the pattern cannot lie across the cut: behind a character that can only end
the pattern, or before one that can only begin it. Counting then goes piece by piece.
-/

/-- The number of places at which the pattern starts. -/
def occurrences (pattern text : Text) : Nat :=
  text.tails.countP pattern.isPrefixOf

variable {pattern left right text : Text} {char : Char}

theorem occurrences_cons (pattern : Text) (char : Char) (rest : Text) :
    occurrences pattern (char :: rest) =
      occurrences pattern rest + if pattern <+: char :: rest then 1 else 0 := by
  simp [occurrences, List.countP_cons]

theorem occurrences_nil (nonempty : pattern ≠ []) : occurrences pattern [] = 0 := by
  cases pattern with
  | nil => contradiction
  | cons first rest => rfl

theorem occurrences_eq_zero (inside : char ∈ pattern) (absent : char ∉ text) :
    occurrences pattern text = 0 := by
  refine List.countP_eq_zero.mpr fun tail member starts => ?_
  have tailSuffix := (List.mem_tails ..).mp member
  exact absent (tailSuffix.subset ((List.isPrefixOf_iff_prefix.mp starts).subset inside))

theorem occurrences_append (nonempty : pattern ≠ [])
    (apart : ∀ front back, pattern = front ++ back → front ≠ [] → back ≠ [] →
      front <:+ left → ¬ back <+: right) :
    occurrences pattern (left ++ right) = occurrences pattern left + occurrences pattern right := by
  induction left with
  | nil => simp [occurrences_nil nonempty]
  | cons first rest ih =>
      have starts : pattern <+: first :: (rest ++ right) ↔ pattern <+: first :: rest := by
        refine Iff.intro ?_ ?_
        · intro whole
          have front : first :: rest <+: first :: (rest ++ right) :=
            List.prefix_append (first :: rest) right
          rcases List.prefix_or_prefix_of_prefix whole front with inLeft | ⟨back, rfl⟩
          · exact inLeft
          · have inRight : back <+: right := (List.prefix_append_right_inj (first :: rest)).mp whole
            by_cases empty : back = []
            · simp [empty]
            · exact absurd inRight (apart (first :: rest) back rfl (by simp) empty
                (List.suffix_refl _))
        · exact fun inLeft => inLeft.trans (List.prefix_append _ right)
      have later := ih fun front back split frontNonempty backNonempty ends =>
        apart front back split frontNonempty backNonempty (ends.trans (List.suffix_cons _ _))
      rw [List.cons_append, occurrences_cons, occurrences_cons, later]
      simp only [starts]
      omega

/-- A character that can stand only at the end of the pattern closes whatever comes before it. -/
theorem occurrences_append_of_getLast? (nonempty : pattern ≠ []) (ends : left.getLast? = some char)
    (closing : char ∉ pattern.dropLast) :
    occurrences pattern (left ++ right) = occurrences pattern left + occurrences pattern right := by
  apply occurrences_append nonempty
  intro front back split frontNonempty backNonempty cut _
  obtain ⟨before, rfl⟩ := cut
  rw [List.getLast?_append_of_ne_nil _ frontNonempty] at ends
  apply closing
  rw [split, List.dropLast_append_of_ne_nil backNonempty]
  exact List.mem_append_left _ (List.mem_of_getLast? ends)

/-- A character that can stand only at the start of the pattern opens whatever comes behind it. -/
theorem occurrences_append_of_head? (nonempty : pattern ≠ []) (starts : right.head? = some char)
    (opening : char ∉ pattern.tail) :
    occurrences pattern (left ++ right) = occurrences pattern left + occurrences pattern right := by
  apply occurrences_append nonempty
  intro front back split frontNonempty backNonempty _ cut
  obtain ⟨after, rfl⟩ := cut
  rw [List.head?_append_of_ne_nil _ backNonempty] at starts
  apply opening
  rw [split, List.tail_append_of_ne_nil frontNonempty]
  exact List.mem_append_right _ (List.mem_of_mem_head? starts)

theorem occurrences_append_of_foreign_left (nonempty : pattern ≠ [])
    (foreign : ∀ char ∈ left, char ∉ pattern) :
    occurrences pattern (left ++ right) = occurrences pattern right := by
  obtain ⟨first, rest, rfl⟩ := List.exists_cons_of_ne_nil nonempty
  have silent : occurrences (first :: rest) left = 0 :=
    occurrences_eq_zero List.mem_cons_self fun member => foreign first member List.mem_cons_self
  rw [occurrences_append nonempty, silent, Nat.zero_add]
  intro front back split frontNonempty _ ends _
  obtain ⟨char, more, rfl⟩ := List.exists_cons_of_ne_nil frontNonempty
  apply foreign char (ends.subset List.mem_cons_self)
  simp [split]

theorem occurrences_append_of_foreign_right (nonempty : pattern ≠ [])
    (foreign : ∀ char ∈ right, char ∉ pattern) :
    occurrences pattern (left ++ right) = occurrences pattern left := by
  obtain ⟨first, rest, rfl⟩ := List.exists_cons_of_ne_nil nonempty
  have silent : occurrences (first :: rest) right = 0 :=
    occurrences_eq_zero List.mem_cons_self fun member => foreign first member List.mem_cons_self
  rw [occurrences_append nonempty, silent, Nat.add_zero]
  intro front back split _ backNonempty _ starts
  obtain ⟨char, more, rfl⟩ := List.exists_cons_of_ne_nil backNonempty
  apply foreign char (starts.subset List.mem_cons_self)
  simp [split]

theorem occurrences_intercalate_newline (nonempty : pattern ≠ []) (foreign : '\n' ∉ pattern)
    (parts : List Text) :
    occurrences pattern (("\n" : Text).intercalate parts) =
      (parts.map (occurrences pattern)).sum := by
  have newline : ∀ char ∈ ("\n" : Text), char ∉ pattern := by simpa using foreign
  have opening : '\n' ∉ pattern.tail := fun member => foreign (List.mem_of_mem_tail member)
  induction parts with
  | nil => simp [occurrences_nil nonempty]
  | cons first rest ih =>
      cases rest with
      | nil => simp
      | cons second rest =>
          rw [List.intercalate_cons_cons, List.append_assoc,
            occurrences_append_of_head? nonempty rfl opening,
            occurrences_append_of_foreign_left nonempty newline, ih]
          simp

end WidgetBindings.Text
