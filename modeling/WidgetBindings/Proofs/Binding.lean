import WidgetBindings.Proofs.Fallible
import WidgetBindings.Proofs.Naming
import WidgetBindings.Proofs.Printing
import WidgetBindings.Wrapper.Binding

namespace WidgetBindings

/-! Which functions have wrappers, and what a wrapper takes over from its function. -/

/-- Spelled as a string or as one of the primitive types. -/
def CType.IsSupported (type : CType) : Prop :=
  ("char *" : Text) <:+ type.spelling ∨
    type.spelling ∈ (["uint16_t", "int32_t", "uint8_t", "bool", "_Bool"] : List Text)

instance (type : CType) : Decidable type.IsSupported :=
  inferInstanceAs (Decidable (_ ∨ _))

theorem CType.isSupported_iff {type : CType} :
    type.IsSupported ↔ ∃ rust, type.rustType? = some rust := by
  unfold rustType? IsSupported
  by_cases ends : type.isString = true
  · simp only [ends, if_true, isString_iff.mp ends, true_or, Option.some.injEq, exists_eq']
  · have keys : (primitiveTypes.map Prod.fst) =
        (["uint16_t", "int32_t", "uint8_t", "bool", "_Bool"] : List Text) := rfl
    simp only [ends, mt isString_iff.mpr ends, false_or, ← keys]
    refine Iff.intro ?_ ?_
    · intro listed
      cases found : primitiveTypes.lookup type.spelling with
      | some rust => exact ⟨rust, rfl⟩
      | none =>
          obtain ⟨entry, member, same⟩ := List.mem_map.mp listed
          have different := List.lookup_eq_none_iff.mp found entry member
          simp [same] at different
    · intro ⟨rust, found⟩
      obtain ⟨before, after, split, -⟩ := List.lookup_eq_some_iff.mp found
      exact List.mem_map.mpr ⟨(type.spelling, rust), by simp [split], rfl⟩

/-- The declarations that a C parser accepts have names of this kind. -/
structure Func.HasIdentifiers (func : Func) : Prop where
  name : Name.isIdentifier func.name = true
  params : ∀ param ∈ func.params, Name.isIdentifier param.name = true

instance (func : Func) : Decidable func.HasIdentifiers :=
  decidable_of_iff (Name.isIdentifier func.name = true ∧
      ∀ param ∈ func.params, Name.isIdentifier param.name = true)
    ⟨fun ⟨name, params⟩ => ⟨name, params⟩, fun ⟨name, params⟩ => ⟨name, params⟩⟩

theorem Param.argument_eq_ok_iff {param : Param} {argument : Argument} :
    param.argument = .ok argument ↔
      param.type.rustType? = some argument.type ∧ argument.ident = Name.escape param.name := by
  unfold Param.argument
  cases mapped : param.type.rustType? with
  | none => simp
  | some rust =>
      cases argument
      simp [Param.ident, and_comm, eq_comm]

theorem Param.exists_argument_iff {param : Param} :
    (∃ argument, param.argument = .ok argument) ↔ param.type.IsSupported := by
  simp only [Param.argument_eq_ok_iff, CType.isSupported_iff]
  refine Iff.intro ?_ ?_
  · intro ⟨argument, mapped, _⟩
    exact ⟨argument.type, mapped⟩
  · intro ⟨rust, mapped⟩
    exact ⟨⟨Name.escape param.name, rust⟩, mapped, rfl⟩

namespace Func

variable {lib widget : Text} {func : Func}

theorem method_eq_ok_iff {binding : Method} :
    func.method lib widget = .ok binding ↔
      ∃ receiver params arguments, func.params = receiver :: params ∧ func.result = none ∧
        List.Forall₂ (fun param argument => param.argument = .ok argument) params arguments ∧
        binding = ⟨Name.escape (Name.withinWidget lib widget func.name), receiver.type.receiver,
          arguments, func.name⟩ := by
  unfold Func.method
  cases params : func.params with
  | nil => simp
  | cons receiver rest =>
      cases result : func.result with
      | some type => simp
      | none =>
          simp only [bind_eq_ok_iff, mapM_eq_ok_iff]
          simp [pure, Except.pure, eq_comm]

theorem wrapper_eq_ok_iff {wrapper : Wrapper} :
    func.wrapper lib widget = .ok wrapper ↔
      Name.withinWidget lib widget func.name = ("create" : Text) ∧
          wrapper = .constructor func.name ∨
        Name.withinWidget lib widget func.name ≠ ("create" : Text) ∧
          ∃ binding, func.method lib widget = .ok binding ∧ wrapper = .method binding := by
  unfold Func.wrapper
  by_cases create : Name.withinWidget lib widget func.name = ("create" : Text)
  · simp only [if_pos create, Except.ok.injEq]
    exact ⟨fun same => .inl ⟨create, same.symm⟩, fun
      | .inl ⟨_, same⟩ => same.symm
      | .inr ⟨other, _⟩ => absurd create other⟩
  · simp only [create, false_and, false_or, not_false_eq_true, true_and, ne_eq]
    cases bound : func.method lib widget with
    | error skip => simp [Functor.map, Except.map]
    | ok binding => simp [Functor.map, Except.map, eq_comm]

theorem wrapper_eq_method_iff {binding : Method} :
    func.wrapper lib widget = .ok (.method binding) ↔
      Name.withinWidget lib widget func.name ≠ ("create" : Text) ∧
        func.method lib widget = .ok binding := by
  rw [wrapper_eq_ok_iff]
  refine Iff.intro ?_ ?_
  · intro found
    rcases found with ⟨-, same⟩ | ⟨other, _, bound, same⟩
    · cases same
    · cases same
      exact ⟨other, bound⟩
  · intro ⟨other, bound⟩
    exact .inr ⟨other, binding, bound, rfl⟩

theorem exists_method_iff :
    (∃ binding, func.method lib widget = .ok binding) ↔
      func.params ≠ [] ∧ func.result = none ∧
        ∀ param ∈ func.params.tail, param.type.IsSupported := by
  refine Iff.intro ?_ ?_
  · intro ⟨binding, bound⟩
    obtain ⟨receiver, params, arguments, split, procedure, mapped, -⟩ := method_eq_ok_iff.mp bound
    refine ⟨by simp [split], procedure, fun param member => ?_⟩
    rw [split, List.tail_cons] at member
    obtain ⟨argument, -, done⟩ := forall₂_exists_left mapped param member
    exact Param.exists_argument_iff.mp ⟨argument, done⟩
  · intro ⟨nonempty, procedure, supported⟩
    obtain ⟨receiver, params, split⟩ := List.exists_cons_of_ne_nil nonempty
    rw [split, List.tail_cons] at supported
    obtain ⟨arguments, mapped⟩ := exists_forall₂_iff.mpr fun param member =>
      Param.exists_argument_iff.mpr (supported param member)
    exact ⟨_, method_eq_ok_iff.mpr
      ⟨receiver, params, arguments, split, procedure, mapped, rfl⟩⟩

/-- A function is skipped unless it is the constructor or a procedure on a receiver whose other
parameters all have supported types. -/
theorem exists_wrapper_iff :
    (∃ wrapper, func.wrapper lib widget = .ok wrapper) ↔
      Name.withinWidget lib widget func.name = ("create" : Text) ∨
        func.params ≠ [] ∧ func.result = none ∧
          ∀ param ∈ func.params.tail, param.type.IsSupported := by
  by_cases create : Name.withinWidget lib widget func.name = ("create" : Text)
  · exact iff_of_true ⟨_, wrapper_eq_ok_iff.mpr (.inl ⟨create, rfl⟩)⟩ (.inl create)
  · have onlyMethods : (∃ wrapper, func.wrapper lib widget = .ok wrapper) ↔
        ∃ binding, func.method lib widget = .ok binding := by
      refine Iff.intro ?_ ?_
      · intro ⟨wrapper, found⟩
        rcases wrapper_eq_ok_iff.mp found with ⟨same, -⟩ | ⟨-, binding, bound, -⟩
        · exact absurd same create
        · exact ⟨binding, bound⟩
      · intro ⟨binding, bound⟩
        exact ⟨_, wrapper_eq_method_iff.mpr ⟨create, bound⟩⟩
    rw [onlyMethods, exists_method_iff, or_iff_right create]

theorem callee_eq_name {wrapper : Wrapper} (found : func.wrapper lib widget = .ok wrapper) :
    wrapper.callee = func.name := by
  rcases wrapper_eq_ok_iff.mp found with ⟨-, rfl⟩ | ⟨-, binding, bound, rfl⟩
  · rfl
  · obtain ⟨receiver, params, arguments, -, -, -, rfl⟩ := method_eq_ok_iff.mp bound
    rfl

theorem wrapper_plain {wrapper : Wrapper} (identifiers : func.HasIdentifiers)
    (found : func.wrapper lib widget = .ok wrapper) : wrapper.IsPlain := by
  have word := Name.isWord_of_isIdentifier identifiers.name
  rcases wrapper_eq_ok_iff.mp found with ⟨-, rfl⟩ | ⟨-, binding, bound, rfl⟩
  · exact word
  · obtain ⟨receiver, params, arguments, split, -, mapped, rfl⟩ := method_eq_ok_iff.mp bound
    refine ⟨(word.of_subset (Name.withinWidget_suffix lib widget func.name).subset).escape, word, ?_⟩
    intro argument member
    obtain ⟨param, listed, done⟩ := forall₂_exists_right mapped argument member
    rw [(Param.argument_eq_ok_iff.mp done).2]
    exact (Name.isWord_of_isIdentifier
      (identifiers.params param (by simp [split, listed]))).escape

end Func

end WidgetBindings
