import WidgetBindings.Proofs.Fallible
import WidgetBindings.Source.Loading

namespace WidgetBindings

/-! Which declarations are read, and which defect is reported.

Candidates are told apart by kind, linkage and name alone. Reading goes on to the first candidate
that lacks something, and the report is on the first thing that this candidate lacks.
-/

def IsPresent (spelling : Option Text) : Prop :=
  ∃ text ∈ spelling, text ≠ []

instance (spelling : Option Text) : Decidable (IsPresent spelling) :=
  inferInstanceAs (Decidable (∃ text ∈ spelling, text ≠ []))

theorem present?_eq_some_iff {spelling : Option Text} {text : Text} :
    present? spelling = some text ↔ spelling = some text ∧ text ≠ [] := by
  simp only [present?, Option.filter_eq_some_iff, decide_eq_true_eq]

theorem present?_eq_none_iff {spelling : Option Text} :
    present? spelling = none ↔ ¬ IsPresent spelling := by
  simp only [IsPresent, Option.eq_none_iff_forall_ne_some, ne_eq, present?_eq_some_iff,
    Option.mem_def, not_exists]

theorem isPresent_of_present? {spelling : Option Text} {text : Text}
    (found : present? spelling = some text) : IsPresent spelling :=
  ⟨text, present?_eq_some_iff.mp found⟩

namespace DeclaredParam

def WellFormed (declared : DeclaredParam) : Prop :=
  IsPresent declared.name ∧ IsPresent declared.type

instance (declared : DeclaredParam) : Decidable declared.WellFormed :=
  inferInstanceAs (Decidable (_ ∧ _))

def Declares (declared : DeclaredParam) (param : Param) : Prop :=
  declared.name = some param.name ∧ declared.type = some param.type.spelling

/-- A missing name is reported before a missing type. -/
inductive FirstDefect (func : Text) (declared : DeclaredParam) : Text → Prop
  | name (missing : ¬ IsPresent declared.name) :
      FirstDefect func declared ("Parameter without a name in declaration of " ++ func)
  | type {ident : Text} (named : declared.name = some ident) (nonempty : ident ≠ [])
      (missing : ¬ IsPresent declared.type) :
      FirstDefect func declared ("Parameter '" ++ ident ++ "' of " ++ func ++ " has no type")

variable {declared : DeclaredParam} {func : Text}

theorem param_eq_ok_iff {param : Param} :
    declared.param func = .ok param ↔ declared.WellFormed ∧ declared.Declares param := by
  unfold DeclaredParam.param
  cases name : present? declared.name with
  | none => simp [WellFormed, present?_eq_none_iff.mp name]
  | some ident =>
      cases type : present? declared.type with
      | none => simp [WellFormed, present?_eq_none_iff.mp type]
      | some spelling =>
          have wellFormed : declared.WellFormed :=
            ⟨isPresent_of_present? name, isPresent_of_present? type⟩
          have named := (present?_eq_some_iff.mp name).1
          have typed := (present?_eq_some_iff.mp type).1
          simp only [Declares, wellFormed, named, typed, true_and, Option.some.injEq,
            Except.ok.injEq]
          refine Iff.intro (fun same => same ▸ ⟨rfl, rfl⟩) (fun ⟨sameName, sameType⟩ => ?_)
          rw [sameName, sameType]

theorem FirstDefect.not_wellFormed {message : Text} (first : FirstDefect func declared message) :
    ¬ declared.WellFormed := by
  intro ⟨named, typed⟩
  cases first with
  | name missing => exact missing named
  | type _ _ missing => exact missing typed

theorem exists_param_iff :
    (∃ param, declared.param func = .ok param) ↔ declared.WellFormed := by
  refine Iff.intro (fun ⟨param, read⟩ => (param_eq_ok_iff.mp read).1) (fun wellFormed => ?_)
  obtain ⟨ident, named, -⟩ := wellFormed.1
  obtain ⟨spelling, typed, -⟩ := wellFormed.2
  exact ⟨⟨ident, ⟨spelling⟩⟩, param_eq_ok_iff.mpr ⟨wellFormed, named, typed⟩⟩

theorem param_error_iff {message : Text} :
    (∃ defect, declared.param func = .error defect ∧ defect.message = message) ↔
      FirstDefect func declared message := by
  unfold DeclaredParam.param
  cases name : present? declared.name with
  | none =>
      have missing := present?_eq_none_iff.mp name
      refine Iff.intro (fun ⟨defect, same, text⟩ => ?_) (fun first => ?_)
      · cases same
        exact text ▸ .name missing
      · cases first with
        | name _ => exact ⟨_, rfl, rfl⟩
        | type named nonempty _ => exact absurd ⟨_, named, nonempty⟩ missing
  | some ident =>
      have named := present?_eq_some_iff.mp name
      cases type : present? declared.type with
      | none =>
          have missing := present?_eq_none_iff.mp type
          refine Iff.intro (fun ⟨defect, same, text⟩ => ?_) (fun first => ?_)
          · cases same
            exact text ▸ .type named.1 named.2 missing
          · cases first with
            | name unnamed => exact absurd (isPresent_of_present? name) unnamed
            | type same _ _ =>
                cases named.1.symm.trans same
                exact ⟨_, rfl, rfl⟩
      | some spelling =>
          refine Iff.intro (fun ⟨defect, same, _⟩ => nomatch same) (fun first => ?_)
          cases first with
          | name unnamed => exact absurd (isPresent_of_present? name) unnamed
          | type _ _ untyped => exact absurd (isPresent_of_present? type) untyped

end DeclaredParam

namespace Declaration

/-- A function that other units can call, with the library's prefix. -/
def IsCandidate (lib : Text) (declaration : Declaration) : Prop :=
  declaration.isFunction = true ∧ declaration.linkage ≠ .internal ∧
    ∃ name ∈ declaration.name, name ≠ [] ∧ lib <+: name

instance (lib : Text) (declaration : Declaration) : Decidable (declaration.IsCandidate lib) :=
  inferInstanceAs (Decidable (_ ∧ _ ∧ ∃ name ∈ declaration.name, _))

def WellFormed (declaration : Declaration) : Prop :=
  IsPresent declaration.result ∧ ∀ declared ∈ declaration.params, declared.WellFormed

instance (declaration : Declaration) : Decidable declaration.WellFormed :=
  inferInstanceAs (Decidable (_ ∧ _))

/-- The same name, the same parameters in the same order, and no result for `void`. -/
structure Declares (declaration : Declaration) (func : Func) : Prop where
  name : declaration.name = some func.name
  params : List.Forall₂ DeclaredParam.Declares declaration.params func.params
  procedure : func.result = none ↔ declaration.result = some "void".toList
  result : ∀ type, func.result = some type → declaration.result = some type.spelling

/-- The result is looked at first, and then the parameters from left to right. -/
inductive FirstDefect (declaration : Declaration) : Text → Prop
  | result {name : Text} (named : declaration.name = some name)
      (missing : ¬ IsPresent declaration.result) :
      FirstDefect declaration ("Can not determine the result type of " ++ name)
  | param {name message : Text} {before after : List DeclaredParam} {declared : DeclaredParam}
      (named : declaration.name = some name) (present : IsPresent declaration.result)
      (split : declaration.params = before ++ declared :: after)
      (fine : ∀ earlier ∈ before, earlier.WellFormed)
      (first : declared.FirstDefect name message) : FirstDefect declaration message

variable {lib : Text} {declaration : Declaration}

theorem FirstDefect.not_wellFormed {message : Text} (first : declaration.FirstDefect message) :
    ¬ declaration.WellFormed := by
  intro ⟨present, wellFormed⟩
  cases first with
  | result _ missing => exact missing present
  | param _ _ split _ defective =>
      exact defective.not_wellFormed (wellFormed _ (by simp [split]))

theorem FirstDefect.ne_unnamed {message : Text} (first : declaration.FirstDefect message) :
    message ≠ Defect.unnamed.message := by
  intro same
  have starts : message.head? = some 'F' := same ▸ rfl
  cases first with
  | result _ _ => exact absurd (Option.some.inj starts : 'C' = 'F') (by decide)
  | param _ _ _ _ defective =>
      cases defective with
      | name _ => exact absurd (Option.some.inj starts : 'P' = 'F') (by decide)
      | type _ _ _ => exact absurd (Option.some.inj starts : 'P' = 'F') (by decide)

theorem isCandidate_iff : declaration.isCandidate lib = true ↔ declaration.IsCandidate lib := by
  unfold isCandidate exported? IsCandidate
  by_cases exported : (declaration.isFunction && declaration.linkage != .internal) = true
  · rw [if_pos exported]
    simp only [Bool.and_eq_true, bne_iff_ne, ne_eq] at exported
    cases name : present? declaration.name with
    | none =>
        refine iff_of_false Bool.false_ne_true fun ⟨_, _, spelling, same, nonempty, _⟩ => ?_
        exact present?_eq_none_iff.mp name ⟨spelling, same, nonempty⟩
    | some spelling =>
        obtain ⟨named, nonempty⟩ := present?_eq_some_iff.mp name
        simp [exported, named, nonempty]
  · rw [if_neg exported]
    simp only [Bool.and_eq_true, bne_iff_ne, ne_eq] at exported
    refine iff_of_false Bool.false_ne_true fun ⟨function, external, _⟩ => ?_
    exact exported ⟨function, external⟩

theorem resultType_eq_iff {spelling : Text} {result : Option CType} :
    resultType spelling = result ↔
      (result = none ↔ spelling = "void".toList) ∧
        ∀ type, result = some type → spelling = type.spelling := by
  unfold resultType
  cases result with
  | none => simp
  | some type =>
      have inner : (⟨spelling⟩ : CType) = type ↔ spelling = type.spelling :=
        ⟨congrArg CType.spelling, congrArg CType.mk⟩
      simp [inner]

theorem func_eq_ok_iff {func : Func} (candidate : declaration.IsCandidate lib) :
    declaration.func = .ok func ↔ declaration.WellFormed ∧ declaration.Declares func := by
  obtain ⟨-, -, spelling, named, nonempty, -⟩ := candidate
  have name := present?_eq_some_iff.mpr ⟨named, nonempty⟩
  unfold Declaration.func
  simp only [name]
  cases result : present? declaration.result with
  | none => simp [WellFormed, present?_eq_none_iff.mp result]
  | some type =>
      have typed := (present?_eq_some_iff.mp result).1
      simp only [bind_eq_ok_iff, mapM_eq_ok_iff, DeclaredParam.param_eq_ok_iff,
        List.forall₂_and_left]
      refine Iff.intro ?_ ?_
      · intro ⟨params, ⟨wellFormed, declares⟩, same⟩
        cases same
        obtain ⟨procedure, value⟩ := resultType_eq_iff.mp (rfl : resultType type = _)
        refine ⟨⟨isPresent_of_present? result, wellFormed⟩, named, declares, ?_, ?_⟩
        · rw [typed, Option.some.injEq, procedure]
        · exact fun other same => typed.trans (congrArg some (value other same))
      · intro ⟨⟨_, wellFormed⟩, declares⟩
        have sameName : spelling = func.name := Option.some.inj (named.symm.trans declares.name)
        have sameResult : resultType type = func.result := by
          refine resultType_eq_iff.mpr ⟨?_, fun other same => ?_⟩
          · rw [declares.procedure, typed, Option.some.injEq]
          · exact Option.some.inj (typed.symm.trans (declares.result other same))
        refine ⟨func.params, ⟨wellFormed, declares.params⟩, ?_⟩
        rw [sameName, sameResult]
        rfl

theorem func_error_iff {message : Text} (candidate : declaration.IsCandidate lib) :
    (∃ defect, declaration.func = .error defect ∧ defect.message = message) ↔
      declaration.FirstDefect message := by
  obtain ⟨-, -, spelling, named, nonempty, -⟩ := candidate
  have name := present?_eq_some_iff.mpr ⟨named, nonempty⟩
  unfold Declaration.func
  simp only [name]
  cases result : present? declaration.result with
  | none =>
      have missing := present?_eq_none_iff.mp result
      refine Iff.intro (fun ⟨defect, same, text⟩ => ?_) (fun first => ?_)
      · cases same
        exact text ▸ .result named missing
      · cases first with
        | result same _ =>
            cases named.symm.trans same
            exact ⟨_, rfl, rfl⟩
        | param _ present _ _ _ => exact absurd present missing
  | some type =>
      have present := isPresent_of_present? result
      refine Iff.intro (fun ⟨defect, failed, text⟩ => ?_) (fun first => ?_)
      · rcases bind_eq_error_iff.mp failed with unread | ⟨_, _, impossible⟩
        · obtain ⟨before, declared, after, split, fine, defective⟩ := mapM_eq_error_iff.mp unread
          refine .param named present split (fun earlier member => ?_) ?_
          · exact DeclaredParam.exists_param_iff.mp (fine earlier member)
          · exact DeclaredParam.param_error_iff.mp ⟨defect, defective, text⟩
        · cases impossible
      · cases first with
        | result _ missing => exact absurd present missing
        | param same _ split fine defective =>
            cases named.symm.trans same
            obtain ⟨defect, failed, text⟩ := DeclaredParam.param_error_iff.mpr defective
            have unread := mapM_eq_error_iff.mpr ⟨_, _, _, split, fun earlier member =>
              DeclaredParam.exists_param_iff.mpr (fine earlier member), failed⟩
            exact ⟨defect, bind_eq_error_iff.mpr (.inl unread), text⟩

theorem exists_firstDefect (candidate : declaration.IsCandidate lib)
    (illFormed : ¬ declaration.WellFormed) : ∃ message, declaration.FirstDefect message := by
  cases read : declaration.func with
  | ok func => exact absurd ((func_eq_ok_iff candidate).mp read).1 illFormed
  | error defect => exact ⟨defect.message, (func_error_iff candidate).mp ⟨defect, read, rfl⟩⟩

end Declaration

section Scan

variable {lib : Text} {declaration : Declaration} {rest : List Declaration}

theorem scan_cons_of_not_candidate (other : ¬ declaration.IsCandidate lib) :
    scan lib (declaration :: rest) = scan lib rest := by
  simp only [scan, if_neg (mt Declaration.isCandidate_iff.mp other)]

theorem scan_cons_of_ok {func : Func} (candidate : declaration.IsCandidate lib)
    (read : declaration.func = .ok func) :
    scan lib (declaration :: rest) =
      ⟨func :: (scan lib rest).functions, (scan lib rest).defect⟩ := by
  simp only [scan, if_pos (Declaration.isCandidate_iff.mpr candidate), read]

theorem scan_cons_of_error {defect : Defect} (candidate : declaration.IsCandidate lib)
    (failed : declaration.func = .error defect) :
    scan lib (declaration :: rest) = ⟨[], some defect⟩ := by
  simp only [scan, if_pos (Declaration.isCandidate_iff.mpr candidate), failed]

theorem scan_filter (lib : Text) (declarations : List Declaration) :
    scan lib (declarations.filter (·.IsCandidate lib)) = scan lib declarations := by
  induction declarations with
  | nil => rfl
  | cons declaration rest ih =>
      by_cases candidate : declaration.IsCandidate lib
      · simp only [List.filter_cons, candidate, decide_true, if_true]
        cases read : declaration.func with
        | ok func => rw [scan_cons_of_ok candidate read, scan_cons_of_ok candidate read, ih]
        | error defect =>
            rw [scan_cons_of_error candidate read, scan_cons_of_error candidate read]
      · simp only [List.filter_cons, candidate, decide_false, Bool.false_eq_true, if_false, ih,
          scan_cons_of_not_candidate candidate]

theorem scan_functions {candidates : List Declaration}
    (all : ∀ declaration ∈ candidates, declaration.IsCandidate lib) :
    List.Forall₂ Declaration.Declares (candidates.takeWhile (·.WellFormed))
      (scan lib candidates).functions := by
  induction candidates with
  | nil => exact .nil
  | cons declaration rest ih =>
      obtain ⟨candidate, others⟩ := List.forall_mem_cons.mp all
      cases read : declaration.func with
      | ok func =>
          obtain ⟨wellFormed, declares⟩ := (Declaration.func_eq_ok_iff candidate).mp read
          rw [scan_cons_of_ok candidate read]
          simp only [List.takeWhile_cons, wellFormed, decide_true, if_true]
          exact .cons declares (ih others)
      | error defect =>
          have first := (Declaration.func_error_iff candidate).mp ⟨defect, read, rfl⟩
          rw [scan_cons_of_error candidate read]
          simp only [List.takeWhile_cons, first.not_wellFormed, decide_false, Bool.false_eq_true,
            if_false]
          exact .nil

theorem scan_message_iff {candidates : List Declaration}
    (all : ∀ declaration ∈ candidates, declaration.IsCandidate lib) :
    ∀ message,
      (scan lib candidates).defect.map Defect.message = some message ↔
        ∃ first, candidates.find? (¬ ·.WellFormed) = some first ∧ first.FirstDefect message := by
  intro message
  induction candidates with
  | nil => simp [scan]
  | cons declaration rest ih =>
      obtain ⟨candidate, others⟩ := List.forall_mem_cons.mp all
      cases read : declaration.func with
      | ok func =>
          obtain ⟨wellFormed, -⟩ := (Declaration.func_eq_ok_iff candidate).mp read
          rw [scan_cons_of_ok candidate read]
          simp only [List.find?_cons, wellFormed, not_true_eq_false, decide_false, ih others]
      | error defect =>
          have illFormed := ((Declaration.func_error_iff candidate).mp
            ⟨defect, read, rfl⟩).not_wellFormed
          rw [scan_cons_of_error candidate read]
          simp only [List.find?_cons, illFormed, not_false_eq_true, decide_true, Option.map_some,
            Option.some.injEq, exists_eq_left', ← Declaration.func_error_iff candidate, read,
            Except.error.injEq]

theorem scan_defect_ne_none_iff {candidates : List Declaration}
    (all : ∀ declaration ∈ candidates, declaration.IsCandidate lib) :
    (scan lib candidates).defect ≠ none ↔
      ∃ declaration ∈ candidates, ¬ declaration.WellFormed := by
  refine Iff.intro (fun failed => ?_) (fun ⟨declaration, listed, illFormed⟩ => ?_)
  · obtain ⟨defect, found⟩ := Option.ne_none_iff_exists'.mp failed
    obtain ⟨first, met, firstDefect⟩ :=
      (scan_message_iff all _).mp (congrArg (Option.map Defect.message) found)
    exact ⟨first, List.mem_of_find?_eq_some met, firstDefect.not_wellFormed⟩
  · have stops : (candidates.find? (¬ ·.WellFormed)).isSome = true :=
      List.find?_isSome.mpr ⟨declaration, listed, decide_eq_true illFormed⟩
    obtain ⟨first, met⟩ := Option.isSome_iff_exists.mp stops
    have candidate := all first (List.mem_of_find?_eq_some met)
    have firstIll : ¬ first.WellFormed := by simpa using List.find?_some met
    obtain ⟨message, firstDefect⟩ := Declaration.exists_firstDefect candidate firstIll
    intro missing
    have silent := (scan_message_iff all _).mpr ⟨first, met, firstDefect⟩
    rw [missing] at silent
    cases silent

end Scan

namespace SourceUnit

variable {lib : Text} {unit : SourceUnit}

/-- The unit as far as it is read: the candidates without diagnostics. -/
def reduced (lib : Text) (unit : SourceUnit) : SourceUnit :=
  ⟨unit.declarations.filter (·.IsCandidate lib), []⟩

theorem functions_reduced : (unit.reduced lib).functions lib = unit.functions lib := by
  unfold SourceUnit.functions reduced
  rw [scan_filter]

end SourceUnit

theorem Request.load_reduced (request : Request) (lib : Text) (fileFound : Bool)
    (parser : CParser) :
    (request.load lib fileFound fun invocation =>
      (parser invocation).map (SourceUnit.reduced lib)).value.outcome =
        (request.load lib fileFound parser).value.outcome := by
  unfold Request.load Request.readUnit
  cases fileFound with
  | false => rfl
  | true =>
      cases parsed : parser request.invocation with
      | error reason => simp [parsed, Except.map, Loading.advance]
      | ok unit => simp [parsed, Except.map, Loading.advance, SourceUnit.functions_reduced]

/-- The functions before the first ill-formed candidate are read, and its first defect is the only
one that is reported. What is no candidate takes no part in this, and neither do diagnostics. -/
theorem reading_exact (lib : Text) (declarations : List Declaration) :
    let candidates := declarations.filter (·.IsCandidate lib)
    let found := scan lib declarations
    List.Forall₂ Declaration.Declares (candidates.takeWhile (·.WellFormed)) found.functions ∧
    (found.defect ≠ none ↔ ∃ candidate ∈ candidates, ¬ candidate.WellFormed) ∧
    (∀ message, found.defect.map Defect.message = some message ↔
      ∃ first, candidates.find? (¬ ·.WellFormed) = some first ∧ first.FirstDefect message) ∧
    found.defect.map Defect.message ≠ some "Function declaration without a name".toList ∧
    ∀ (request : Request) (fileFound : Bool) (parser : CParser),
      (request.load lib fileFound fun invocation =>
        (parser invocation).map (SourceUnit.reduced lib)).value.outcome =
          (request.load lib fileFound parser).value.outcome := by
  intro candidates found
  have all : ∀ declaration ∈ candidates, declaration.IsCandidate lib :=
    fun declaration listed => of_decide_eq_true (List.mem_filter.mp listed).2
  have same : scan lib candidates = found := scan_filter lib declarations
  have functions := scan_functions all
  have defects := scan_defect_ne_none_iff all
  have messages := scan_message_iff all
  rw [same] at functions defects messages
  refine ⟨functions, defects, messages, fun unnamed => ?_, fun request fileFound parser =>
    request.load_reduced lib fileFound parser⟩
  obtain ⟨first, -, firstDefect⟩ := (messages _).mp unnamed
  exact firstDefect.ne_unnamed rfl

end WidgetBindings
