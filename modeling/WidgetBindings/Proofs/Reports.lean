import WidgetBindings.Proofs.Binding
import WidgetBindings.Proofs.SortedNames

namespace WidgetBindings

/-! What the log of a module says.

Every widget has its stretch of the log, in the order of the module. Inside a stretch every function
that is left out is reported once, with the first reason that applies, and functions with wrappers
are passed over in silence. The counts at the end of a stretch and at the end of the log add up.
-/

/-- What is read of an event. -/
structure Entry where
  level : Level
  message : Text
deriving DecidableEq, Repr

def Event.entry (event : Event) : Entry :=
  ⟨event.level, event.message⟩

namespace Entry

def skipping (func reason : Text) : Entry :=
  ⟨.debug, "Skipping " ++ func ++ ": " ++ reason⟩

/-- The entry says of something that it is left out. -/
def isSkip (entry : Entry) : Bool :=
  ("Skipping " : Text).isPrefixOf entry.message

theorem isSkip_skipping (func reason : Text) : (skipping func reason).isSkip = true := by
  unfold isSkip skipping
  rw [List.isPrefixOf_iff_prefix, List.append_assoc, List.append_assoc]
  exact List.prefix_append _ _

end Entry

namespace Param

theorem argument_eq_error_iff {param : Param} {skip : Skip} :
    param.argument = .error skip ↔ ¬ param.type.IsSupported ∧ skip = .unsupported param := by
  unfold argument
  rw [CType.isSupported_iff]
  cases param.type.rustType? with
  | none => simp [eq_comm]
  | some rust => simp

theorem tryArgument_log {param : Param} (foreign : ¬ param.type.IsSupported) :
    param.tryArgument.log = [.noMapping param.type] := by
  have unmapped : param.type.rustType? = none := by
    rwa [CType.isSupported_iff, ← Option.isSome_iff_exists, Option.not_isSome_iff_eq_none]
      at foreign
  simp only [tryArgument, CType.tryMap, unmapped, Logged.bind_log, Logged.pure_log, List.append_nil]

end Param

namespace Func

/-- A function with a wrapper is not mentioned. A missing receiver comes before a result, a result
before the types of the parameters, and of these the first unsupported one is reported. -/
inductive Reports (lib widget : Text) (func : Func) : List Entry → Prop
  | wrapped {wrapper : Wrapper} (found : (func.tryWrapper lib widget).value = some wrapper) :
      Reports lib widget func []
  | noReceiver (skipped : (func.tryWrapper lib widget).value = none) (bare : func.params = []) :
      Reports lib widget func [.skipping func.name "no receiver argument"]
  | returnsValue {type : CType} (skipped : (func.tryWrapper lib widget).value = none)
      (called : func.params ≠ []) (returns : func.result = some type) :
      Reports lib widget func [.skipping func.name ("returns " ++ type.spelling)]
  | unsupported {receiver param : Param} {before after : List Param}
      (skipped : (func.tryWrapper lib widget).value = none) (procedure : func.result = none)
      (split : func.params = receiver :: (before ++ param :: after))
      (supported : ∀ earlier ∈ before, earlier.type.IsSupported)
      (foreign : ¬ param.type.IsSupported) :
      Reports lib widget func
        [⟨.debug, "No Rust mapping for C type '" ++ param.type.spelling ++ "'"⟩,
          .skipping func.name
            ("unsupported type '" ++ param.type.spelling ++ "' of '" ++ param.name ++ "'")]

variable {lib widget : Text} {func : Func} {skip : Skip}

theorem reports_of_error
    (other : Name.withinWidget lib widget func.name ≠ ("create" : Text))
    (unbound : func.method lib widget = .error skip) :
    func.Reports lib widget ((skip.events func.name).map Event.entry) := by
  have skipped : (func.tryWrapper lib widget).value = none := by
    rw [tryWrapper_value, wrapper, if_neg other, unbound]
    rfl
  unfold method at unbound
  cases params : func.params with
  | nil =>
      rw [params] at unbound
      cases unbound
      exact .noReceiver skipped params
  | cons receiver rest =>
      cases result : func.result with
      | some type =>
          rw [params, result] at unbound
          cases unbound
          exact .returnsValue skipped (by simp [params]) result
      | none =>
          rw [params, result] at unbound
          rcases bind_eq_error_iff.mp unbound with refused | ⟨arguments, -, built⟩
          · obtain ⟨before, param, after, rfl, fine, failing⟩ := mapM_eq_error_iff.mp refused
            obtain ⟨foreign, rfl⟩ := Param.argument_eq_error_iff.mp failing
            rw [Skip.events, Param.tryArgument_log foreign]
            exact .unsupported skipped result params
              (fun earlier member => Param.exists_argument_iff.mp (fine earlier member)) foreign
          · cases built

theorem reports_tryWrapper (lib widget : Text) (func : Func) :
    func.Reports lib widget ((func.tryWrapper lib widget).log.map Event.entry) := by
  by_cases create : Name.withinWidget lib widget func.name = ("create" : Text)
  · have built : func.tryWrapper lib widget = pure (some (.constructor func.name)) := by
      rw [tryWrapper, if_pos create]
    rw [built]
    exact .wrapped (congrArg Logged.value built)
  · have log : (func.tryWrapper lib widget).log = (func.tryMethod lib widget).log := by
      rw [tryWrapper, if_neg create, Logged.map_log]
    rw [log, tryMethod]
    cases bound : func.method lib widget with
    | error skip => exact reports_of_error create bound
    | ok binding =>
        have built : (func.tryWrapper lib widget).value = some (.method binding) := by
          rw [tryWrapper_value, wrapper, if_neg create, bound]
          rfl
        exact .wrapped built

variable {report : List Entry}

theorem Reports.level (reports : func.Reports lib widget report) :
    ∀ entry ∈ report, entry.level = .debug := by
  cases reports <;> simp [Entry.skipping]

/-- A function is either wrapped or reported as left out once. -/
theorem Reports.countP_isSkip (reports : func.Reports lib widget report) :
    (func.tryWrapper lib widget).value.toList.length + report.countP Entry.isSkip = 1 := by
  cases reports with
  | wrapped found => rw [found]; rfl
  | noReceiver skipped =>
      rw [skipped, List.countP_cons_of_pos (Entry.isSkip_skipping _ _)]
      rfl
  | returnsValue skipped =>
      rw [skipped, List.countP_cons_of_pos (Entry.isSkip_skipping _ _)]
      rfl
  | unsupported skipped =>
      rw [skipped, List.countP_cons_of_neg, List.countP_cons_of_pos (Entry.isSkip_skipping _ _)]
      · rfl
      · exact Bool.false_ne_true

theorem forall₂_reports (lib widget : Text) (funcs : List Func) :
    List.Forall₂ (Func.Reports lib widget) funcs
      (funcs.map fun func => (func.tryWrapper lib widget).log.map Event.entry) :=
  forall₂_map fun func _ => reports_tryWrapper lib widget func

theorem length_add_countP_isSkip {funcs : List Func} {reports : List (List Entry)}
    (pairs : List.Forall₂ (Func.Reports lib widget) funcs reports) :
    (funcs.filterMap fun func => (func.tryWrapper lib widget).value).length +
      reports.flatten.countP Entry.isSkip = funcs.length := by
  induction pairs with
  | nil => rfl
  | @cons func report funcs reports head _ ih =>
      have once := head.countP_isSkip
      have front : ((func :: funcs).filterMap fun func => (func.tryWrapper lib widget).value) =
          (func.tryWrapper lib widget).value.toList ++
            funcs.filterMap fun func => (func.tryWrapper lib widget).value := by
        rw [List.filterMap_cons]
        cases (func.tryWrapper lib widget).value <;> rfl
      rw [front, List.length_append, List.flatten_cons, List.countP_append, List.length_cons]
      omega

end Func

namespace Widget

/-- The base object is left out as a whole. The stretch of any other widget has the reports on its
functions, and closes with how many of them have wrappers. -/
inductive Reports (lib : Text) (widget : Widget) : List Entry → Prop
  | base (base : widget.name = ("obj" : Text)) :
      Reports lib widget [⟨.debug, "Skipping widget 'obj'"⟩]
  | defined {reports : List (List Entry)} {done : Nat} (other : widget.name ≠ ("obj" : Text))
      (functions : List.Forall₂ (Func.Reports lib widget.name) widget.methods reports)
      (counted : done + reports.flatten.countP Entry.isSkip = widget.methods.length) :
      Reports lib widget (reports.flatten ++
        [⟨.debug, Name.pascal widget.name ++ ": wrapped " ++ Text.ofNat done ++ " of " ++
          Text.ofNat widget.methods.length ++ " functions"⟩])

variable {lib : Text} {widget : Widget} {report : List Entry}

theorem Reports.level (reports : widget.Reports lib report) :
    ∀ entry ∈ report, entry.level = .debug := by
  cases reports with
  | base => simp
  | defined _ functions =>
      refine List.forall_mem_append.mpr ⟨fun entry member => ?_, by simp⟩
      obtain ⟨part, listed, inside⟩ := List.mem_flatten.mp member
      obtain ⟨func, -, reported⟩ := forall₂_exists_right functions part listed
      exact reported.level entry inside

theorem define_log (lib : Text) (widget : Widget) :
    (widget.define lib).log =
      widget.methods.flatMap (fun func => (func.tryWrapper lib widget.name).log) ++
        [.wrapped (Name.pascal widget.name)
          (widget.methods.filterMap fun func => (func.tryWrapper lib widget.name).value).length
          widget.methods.length] := by
  simp [define, List.filterMap_map]

theorem reports_moduleEntry (lib : Text) (widget : Widget) :
    widget.Reports lib ((moduleEntry lib widget).log.map Event.entry) := by
  by_cases base : widget.name = ("obj" : Text)
  · have log : (moduleEntry lib widget).log = [.skippedWidget "obj"] := by
      simp [moduleEntry, definition?, isBase_iff.mpr base, base]
    rw [log]
    exact .base base
  · have log : (moduleEntry lib widget).log = (widget.define lib).log := by
      simp [moduleEntry, definition?, Bool.eq_false_iff.mpr (mt isBase_iff.mp base)]
    have functions := Func.forall₂_reports lib widget.name widget.methods
    have whole := Reports.defined base functions (Func.length_add_countP_isSkip functions)
    rw [log, define_log, List.map_append, List.map_flatMap]
    exact whole

end Widget

theorem length_definitions_add (lib : Text) (widgets : List Widget) :
    (definitions lib widgets).value.length + widgets.countP (·.name = ("obj" : Text)) =
      widgets.length := by
  have base (widget : Widget) : decide (widget.name = ("obj" : Text)) = widget.isBase :=
    (beq_eq_decide widget.name baseObject).symm
  have split := List.length_eq_countP_add_countP Widget.isBase (l := widgets)
  simp only [Bool.not_eq_true, Bool.decide_eq_false] at split
  rw [definitions_value, List.length_map, ← List.countP_eq_length_filter,
    (sortedByName_perm widgets).countP_eq, Nat.add_comm, split]
  simp only [base]

theorem generateModule_log (lib : Text) (widgets : List Widget) :
    (generateModule lib widgets).log =
      (sortedByName widgets).flatMap (fun widget => (moduleEntry lib widget).log) ++
        [.rendered (definitions lib widgets).value.length] := by
  simp [generateModule, definitions]

/-- The log of a module goes through the widgets in the order of the module and accounts for each of
them. Only its last entry is no debugging entry, and counts the widgets that are not left out. -/
theorem generateModule_log_exact (lib : Text) (widgets : List Widget) :
    ∃ ordered reports count,
      OrderedByName widgets ordered ∧
      (generateModule lib widgets).log.map Event.entry = reports.flatten ++
        [⟨.info, "Rendered " ++ Text.ofNat count ++ " widgets."⟩] ∧
      List.Forall₂ (Widget.Reports lib) ordered reports ∧
      (∀ entry ∈ reports.flatten, entry.level = .debug) ∧
      count + widgets.countP (·.name = ("obj" : Text)) = widgets.length := by
  have pairs : List.Forall₂ (Widget.Reports lib) (sortedByName widgets)
      ((sortedByName widgets).map fun widget => (moduleEntry lib widget).log.map Event.entry) :=
    forall₂_map fun widget _ => widget.reports_moduleEntry lib
  refine ⟨_, _, _, orderedByName_sortedByName widgets, ?_, pairs, fun entry member => ?_,
    length_definitions_add lib widgets⟩
  · rw [generateModule_log, List.map_append, List.map_flatMap]
    rfl
  · obtain ⟨report, listed, inside⟩ := List.mem_flatten.mp member
    obtain ⟨widget, -, reported⟩ := forall₂_exists_right pairs report listed
    exact reported.level entry inside

/-- The stretch of a button: one method is wrapped and one takes a callback. -/
example :
    let button : CType := ⟨"lv_obj_t *"⟩
    let methods : List Func :=
      [{ name := "lv_btn_set_cb", params := [⟨"btn", button⟩, ⟨"cb", ⟨"void (*)(int)"⟩⟩] },
        { name := "lv_btn_set_width", params := [⟨"btn", button⟩, ⟨"width", ⟨"int32_t"⟩⟩] }]
    (moduleEntry "lv_" ⟨"btn", methods⟩).log.map Event.record =
      (["DEBUG: No Rust mapping for C type 'void (*)(int)'",
        "DEBUG: Skipping lv_btn_set_cb: unsupported type 'void (*)(int)' of 'cb'",
        "DEBUG: Btn: wrapped 1 of 2 functions"] : List Text) := by
  decide

end WidgetBindings
