import Mathlib.Data.List.Forall2

namespace WidgetBindings

/-! Sequences of steps that may fail: all succeed, or the first failure is the result. -/

variable {α β ε : Type}

theorem forall₂_exists_left {related : α → β → Prop} {left : List α} {right : List β}
    (pairs : List.Forall₂ related left right) : ∀ first ∈ left, ∃ second ∈ right,
      related first second := by
  induction pairs with
  | nil => simp
  | cons head _ ih =>
      intro first member
      rcases List.mem_cons.mp member with rfl | member
      · exact ⟨_, List.mem_cons_self, head⟩
      · obtain ⟨second, listed, pair⟩ := ih first member
        exact ⟨second, List.mem_cons_of_mem _ listed, pair⟩

theorem forall₂_exists_right {related : α → β → Prop} {left : List α} {right : List β}
    (pairs : List.Forall₂ related left right) : ∀ second ∈ right, ∃ first ∈ left,
      related first second :=
  forall₂_exists_left pairs.flip

theorem forall₂_map {related : α → β → Prop} {items : List α} {answer : α → β}
    (answers : ∀ item ∈ items, related item (answer item)) :
    List.Forall₂ related items (items.map answer) := by
  rw [List.forall₂_map_right_iff, List.forall₂_same]
  exact answers

theorem exists_forall₂_iff {related : α → β → Prop} {left : List α} :
    (∃ right, List.Forall₂ related left right) ↔ ∀ first ∈ left, ∃ second, related first second := by
  refine Iff.intro ?_ ?_
  · intro ⟨right, pairs⟩ first member
    obtain ⟨second, -, pair⟩ := forall₂_exists_left pairs first member
    exact ⟨second, pair⟩
  · intro total
    induction left with
    | nil => exact ⟨[], .nil⟩
    | cons first rest ih =>
        obtain ⟨⟨second, pair⟩, later⟩ := List.forall_mem_cons.mp total
        obtain ⟨right, pairs⟩ := ih later
        exact ⟨second :: right, .cons pair pairs⟩

theorem toOption_eq_some_iff {attempt : Except ε α} {value : α} :
    attempt.toOption = some value ↔ attempt = .ok value := by
  cases attempt <;> simp [Except.toOption]

theorem mapError_eq_ok_iff {ζ : Type} {attempt : Except ε α} {change : ε → ζ} {value : α} :
    attempt.mapError change = .ok value ↔ attempt = .ok value := by
  cases attempt <;> simp [Except.mapError]

theorem bind_eq_ok_iff {first : Except ε α} {next : α → Except ε β} {result : β} :
    first >>= next = .ok result ↔ ∃ value, first = .ok value ∧ next value = .ok result := by
  cases first <;> simp [bind, Except.bind]

theorem bind_eq_error_iff {first : Except ε α} {next : α → Except ε β} {reason : ε} :
    first >>= next = .error reason ↔
      first = .error reason ∨ ∃ value, first = .ok value ∧ next value = .error reason := by
  cases first <;> simp [bind, Except.bind]

variable {step : α → Except ε β}

theorem mapM_eq_ok_iff {items : List α} {results : List β} :
    items.mapM step = .ok results ↔
      List.Forall₂ (fun item result => step item = .ok result) items results := by
  induction items generalizing results with
  | nil => simp [pure, Except.pure, eq_comm]
  | cons first rest ih =>
      rw [List.mapM_cons, bind_eq_ok_iff, List.forall₂_cons_left_iff]
      simp only [bind_eq_ok_iff, ih, pure, Except.pure, Except.ok.injEq]
      refine Iff.intro ?_ ?_
      · intro ⟨value, done, values, later, same⟩
        exact ⟨value, values, done, later, same.symm⟩
      · intro ⟨value, values, done, later, same⟩
        exact ⟨value, done, values, later, same.symm⟩

theorem mapM_eq_error_iff {items : List α} {reason : ε} :
    items.mapM step = .error reason ↔
      ∃ before item after, items = before ++ item :: after ∧
        (∀ earlier ∈ before, ∃ result, step earlier = .ok result) ∧
        step item = .error reason := by
  induction items with
  | nil => simp [pure, Except.pure]
  | cons first rest ih =>
      rw [List.mapM_cons, bind_eq_error_iff]
      simp only [bind_eq_error_iff, ih, pure, Except.pure, reduceCtorEq, and_false, exists_false,
        or_false]
      refine Iff.intro ?_ ?_
      · intro outcome
        rcases outcome with failed | ⟨value, done, before, item, after, rfl, fine, failed⟩
        · exact ⟨[], first, rest, rfl, by simp, failed⟩
        · exact ⟨first :: before, item, after, rfl,
            List.forall_mem_cons.mpr ⟨⟨value, done⟩, fine⟩, failed⟩
      · intro ⟨before, item, after, split, fine, failed⟩
        cases before with
        | nil =>
            obtain ⟨rfl, rfl⟩ := List.cons.inj split
            exact .inl failed
        | cons earlier before =>
            obtain ⟨rfl, rfl⟩ := List.cons.inj split
            obtain ⟨⟨value, done⟩, fine⟩ := List.forall_mem_cons.mp fine
            exact .inr ⟨value, done, before, item, after, rfl, fine, failed⟩

end WidgetBindings
