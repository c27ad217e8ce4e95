import WidgetBindings.Log.Event

namespace WidgetBindings

/-! Results together with the events on the way to them, oldest first.

A result never depends on the events, so every law about values can be stated through `value`.
-/

@[ext]
structure Logged (α : Type) where
  value : α
  log : List Event := []
deriving Repr

namespace Logged

instance : Monad Logged where
  pure value := { value }
  bind first next := ⟨(next first.value).value, first.log ++ (next first.value).log⟩

def emit (event : Event) : Logged Unit :=
  ⟨(), [event]⟩

variable {α β : Type}

@[simp] theorem pure_value (value : α) : (pure value : Logged α).value = value := rfl

@[simp] theorem pure_log (value : α) : (pure value : Logged α).log = [] := rfl

@[simp] theorem bind_value (first : Logged α) (next : α → Logged β) :
    (first >>= next).value = (next first.value).value := rfl

@[simp] theorem bind_log (first : Logged α) (next : α → Logged β) :
    (first >>= next).log = first.log ++ (next first.value).log := rfl

@[simp] theorem map_value (change : α → β) (result : Logged α) :
    (change <$> result).value = change result.value := rfl

@[simp] theorem map_log (change : α → β) (result : Logged α) :
    (change <$> result).log = result.log := by
  simp [Functor.map]

@[simp] theorem emit_log (event : Event) : (emit event).log = [event] := rfl

instance : LawfulMonad Logged :=
  LawfulMonad.mk' Logged
    (fun x => by cases x; simp [Functor.map])
    (fun _ _ => rfl)
    (fun x f g => by simp [bind, List.append_assoc])

@[simp] theorem mapM_value (items : List α) (step : α → Logged β) :
    (items.mapM step).value = items.map fun item => (step item).value := by
  induction items with
  | nil => rfl
  | cons first rest ih => simp [ih]

@[simp] theorem mapM_log (items : List α) (step : α → Logged β) :
    (items.mapM step).log = items.flatMap fun item => (step item).log := by
  induction items with
  | nil => rfl
  | cons first rest ih => simp [ih]

@[simp] theorem foldlM_value (items : List α) (step : β → α → Logged β) (start : β) :
    (items.foldlM step start).value =
      items.foldl (fun state item => (step state item).value) start := by
  induction items generalizing start with
  | nil => rfl
  | cons first rest ih => simp [ih]

end Logged

end WidgetBindings
