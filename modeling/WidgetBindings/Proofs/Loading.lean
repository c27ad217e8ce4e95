import WidgetBindings.Generator
import WidgetBindings.Proofs.Fallible

namespace WidgetBindings

/-! What loading comes to, without the report on it. -/

theorem SourceUnit.functions_value (lib : Text) (unit : SourceUnit) :
    (unit.functions lib).value =
      match (scan lib unit.declarations).defect with
      | some defect => .error (.defective defect)
      | none => .ok (scan lib unit.declarations).functions := by
  unfold SourceUnit.functions
  cases found : (scan lib unit.declarations).defect <;> simp [found]

theorem Request.readUnit_value (request : Request) (fileFound : Bool) (parser : CParser) :
    (request.readUnit fileFound parser).value =
      if fileFound then
        ⟨[request.invocation], (parser request.invocation).mapError (.unparsable request.path)⟩
      else ⟨[], .error (.notFound request.path)⟩ := by
  unfold Request.readUnit
  cases fileFound with
  | false => rfl
  | true => cases parser request.invocation <;> simp [Except.mapError]

theorem Loading.advance_outcome {α β : Type} (loading : Loading α)
    (next : α → Logged (Except LoadError β)) :
    (loading.advance next).value.outcome = loading.outcome >>= fun loaded => (next loaded).value := by
  unfold Loading.advance
  cases loading.outcome <;> rfl

namespace Generator

theorem ofUnit_value (lib : Text) (separated : Bool) (unit : SourceUnit) :
    (ofUnit lib separated unit).value =
      (unit.functions lib).value.map fun functions => (ofFunctions lib separated functions).value := by
  unfold ofUnit
  cases read : (unit.functions lib).value with
  | error reason => simp [read, Except.map]
  | ok functions => simp [read, Except.map]

theorem load_outcome (request : Request) (lib : Text) (separated fileFound : Bool)
    (parser : CParser) :
    (load request lib separated fileFound parser).value.outcome =
      (request.readUnit fileFound parser).value.outcome >>= fun unit =>
        (ofUnit lib separated unit).value :=
  Loading.advance_outcome _ _

theorem exists_functions_of_load {request : Request} {lib : Text} {separated fileFound : Bool}
    {parser : CParser} {generator : Generator}
    (loaded : (load request lib separated fileFound parser).value.outcome = .ok generator) :
    ∃ functions, generator = (ofFunctions lib separated functions).value := by
  rw [load_outcome, bind_eq_ok_iff] at loaded
  obtain ⟨unit, -, built⟩ := loaded
  rw [ofUnit_value] at built
  cases read : (unit.functions lib).value with
  | error reason =>
      rw [read] at built
      cases built
  | ok functions =>
      rw [read] at built
      cases built
      exact ⟨functions, rfl⟩

end Generator

end WidgetBindings
