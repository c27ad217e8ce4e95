import Mathlib.Data.Finset.Card
import Mathlib.Data.List.Count
import Mathlib.Data.List.Nodup
import WidgetBindings.Proofs.ObjectTypes
import WidgetBindings.Proofs.Reports

namespace WidgetBindings

/-! What the log of an extraction says of functions that are declared more than once.

A function is compared with the methods that its widget has at that moment, so the log grows with
the widgets. For every widget and every name it is in step with them: all methods of the name but
the first have been reported, each once.
-/

namespace Entry

/-- A widget gets another method of a name that it has already. -/
def redeclaring (func widget : Text) : Entry :=
  ⟨.debug, func ++ " is declared more than once, added to '" ++ widget ++ "' again"⟩

theorem redeclaring_inj {func other widget otherWidget : Text} (plain : '\'' ∉ widget)
    (otherPlain : '\'' ∉ otherWidget) :
    redeclaring func widget = redeclaring other otherWidget ↔
      func = other ∧ widget = otherWidget := by
  refine Iff.intro (fun same => ?_) (fun ⟨sameFunc, sameWidget⟩ => by rw [sameFunc, sameWidget])
  have message := List.append_cancel_right (congrArg Entry.message same)
  have quoted (func widget : Text) :
      (func ++ " is declared more than once, added to '" ++ widget).reverse =
        widget.reverse ++ '\'' :: (func ++ " is declared more than once, added to ").reverse := by
    have mark : (" is declared more than once, added to '" : Text) =
        " is declared more than once, added to " ++ ['\''] := by decide
    rw [mark]
    simp only [List.reverse_append, List.append_assoc]
    rfl
  have reversed := congrArg List.reverse message
  rw [quoted, quoted] at reversed
  obtain ⟨sameWidget, rest⟩ := eq_of_append_delimiter (mt List.mem_reverse.mp plain)
    (mt List.mem_reverse.mp otherPlain) reversed
  exact ⟨List.append_cancel_right (List.reverse_injective rest), List.reverse_injective sameWidget⟩

end Entry

namespace Event

variable {func widget : Text}

theorem entry_declaredAgain :
    (declaredAgain func widget).entry = .redeclaring func widget :=
  rfl

/-- A report on a create function ends in a number. -/
theorem entry_ignoredCreate_ne {ignored : Text} {arity : Nat} :
    (ignoredCreate ignored arity).entry ≠ .redeclaring func widget := by
  intro same
  have numbered : Text.ofNat arity ≠ [] := Nat.toDigits_ne_nil
  have last : (Text.ofNat arity).getLast? = some 'n' := by
    have ends := congrArg (fun entry : Entry => entry.message.getLast?) same
    change (("Ignoring " ++ ignored ++ ": expected 2 args, got " : Text) ++
        Text.ofNat arity).getLast? = (_ ++ ("' again" : Text)).getLast? at ends
    rwa [List.getLast?_append_of_ne_nil _ numbered,
      List.getLast?_append_of_ne_nil _ (by decide)] at ends
  have digit := Nat.isDigit_of_mem_toDigits (by decide) (by decide) (List.mem_of_getLast? last)
  exact absurd digit (by decide)

end Event

section Pass

variable {lib : Text} {separated : Bool}

/-- How many functions of a name a widget has got. -/
def declarations (lib : Text) (separated : Bool) (widget name : Text) (seen : List Func) : Nat :=
  seen.countP fun func => func.BelongsTo lib separated widget ∧ func.name = name

theorem declarations_pos_iff {widget name : Text} {seen : List Func} :
    0 < declarations lib separated widget name seen ↔
      ∃ func ∈ seen, func.BelongsTo lib separated widget ∧ func.name = name := by
  simp only [declarations, List.countP_pos_iff, decide_eq_true_eq]

theorem declarations_append (widget name : Text) (seen more : List Func) :
    declarations lib separated widget name (seen ++ more) =
      declarations lib separated widget name seen + declarations lib separated widget name more :=
  List.countP_append

/-- A function is reported where it belongs to a widget that has its name already. -/
def Repeats (lib : Text) (separated : Bool) (seen : List Func) (func : Func) (widget : Text) :
    Prop :=
  func.BelongsTo lib separated widget ∧ 0 < declarations lib separated widget func.name seen

instance (seen : List Func) (func : Func) (widget : Text) :
    Decidable (Repeats lib separated seen func widget) :=
  inferInstanceAs (Decidable (_ ∧ _))

theorem offer_log (widget : Text) (seen : List Func) {func : Func} (handle : func.TakesHandle) :
    (Widget.offer lib separated func
        { name := widget, methods := seen.filter (·.BelongsTo lib separated widget) }).log =
      if Repeats lib separated seen func widget then [.declaredAgain func.name widget] else [] := by
  let gathering : Widget :=
    { name := widget, methods := seen.filter (·.BelongsTo lib separated widget) }
  have owned : gathering.owns lib separated func = true ↔ func.BelongsTo lib separated widget :=
    Widget.owns_iff handle
  have met : gathering.hasMethod func.name = true ↔
      0 < declarations lib separated widget func.name seen := by
    simp [gathering, Widget.hasMethod, declarations_pos_iff]
  change (gathering.offer lib separated func).log = _
  unfold Widget.offer Repeats
  simp only [owned, met]
  by_cases belongs : func.BelongsTo lib separated widget
  · by_cases again : 0 < declarations lib separated widget func.name seen
    · simp [belongs, again, gathering]
    · simp [belongs, again]
  · simp [belongs]

/-- One function is reported once for each widget where it is a repetition. -/
theorem assign_log (names : List Text) (seen : List Func) (func : Func) :
    (assign lib separated (gathered lib separated names seen) func).log =
      (names.filter (Repeats lib separated seen func)).map (Event.declaredAgain func.name) := by
  by_cases handle : func.TakesHandle
  · simp only [assign, if_pos (Func.isMethod_iff.mpr handle), Logged.mapM_log, gathered,
      List.flatMap_map, offer_log _ _ handle]
    induction names with
    | nil => rfl
    | cons name rest ih =>
        by_cases repeated : Repeats lib separated seen func name <;> simp [repeated, ih]
  · have method : func.isMethod = false := Bool.eq_false_iff.mpr (mt Func.isMethod_iff.mp handle)
    have none : names.filter (Repeats lib separated seen func) = [] := by
      simp [Repeats, Func.BelongsTo, handle]
    rw [none, assign, method]
    rfl

variable {names : List Text} {widget name : Text}

/-- One more function adds to the log of a name what it adds to the repetitions of the name. -/
theorem count_assign_log (distinct : names.Nodup) (listed : widget ∈ names) (seen : List Func)
    (func : Func) :
    (assign lib separated (gathered lib separated names seen) func).log.count
        (.declaredAgain name widget) + (declarations lib separated widget name seen - 1) =
      declarations lib separated widget name (seen ++ [func]) - 1 := by
  have injective : Function.Injective (Event.declaredAgain func.name) := by
    intro first second same
    exact (Event.declaredAgain.inj same).2
  have once := (distinct.filter (Repeats lib separated seen func)).map injective
  have reported : Event.declaredAgain name widget ∈
      (names.filter (Repeats lib separated seen func)).map (Event.declaredAgain func.name) ↔
        func.name = name ∧ Repeats lib separated seen func widget := by
    simp [listed, and_comm]
  have added : declarations lib separated widget name [func] =
      if func.BelongsTo lib separated widget ∧ func.name = name then 1 else 0 := by
    simp [declarations, List.countP_cons]
  rw [assign_log, declarations_append, once.count, added]
  simp only [reported]
  unfold Repeats
  by_cases named : func.name = name
  · subst named
    by_cases belongs : func.BelongsTo lib separated widget
    · by_cases met : 0 < declarations lib separated widget func.name seen
      · simp only [belongs, met, and_self, if_true]
        omega
      · simp only [belongs, met, and_true, and_false, if_true, if_false]
        omega
    · simp [belongs]
  · simp [named]

theorem count_foldlM_log (distinct : names.Nodup) (listed : widget ∈ names)
    (seen functions : List Func) :
    (functions.foldlM (assign lib separated) (gathered lib separated names seen)).log.count
        (.declaredAgain name widget) + (declarations lib separated widget name seen - 1) =
      declarations lib separated widget name (seen ++ functions) - 1 := by
  induction functions generalizing seen with
  | nil => simp
  | cons func rest ih =>
      have head : (assign lib separated (gathered lib separated names seen) func).log.count
          (.declaredAgain name widget) + (declarations lib separated widget name seen - 1) =
          declarations lib separated widget name (seen ++ [func]) - 1 :=
        count_assign_log distinct listed seen func
      have later := ih (seen ++ [func])
      rw [List.append_assoc, List.singleton_append] at later
      rw [List.foldlM_cons, Logged.bind_log, assign_gathered, List.count_append]
      omega

/-- Only functions of the list are reported, for widgets that there are. -/
theorem mem_foldlM_log {seen functions : List Func} {event : Event}
    (member : event ∈
      (functions.foldlM (assign lib separated) (gathered lib separated names seen)).log) :
    ∃ func, ∃ widget ∈ names, event = .declaredAgain func widget := by
  induction functions generalizing seen with
  | nil => cases member
  | cons func rest ih =>
      rw [List.foldlM_cons, Logged.bind_log, assign_gathered, assign_log] at member
      rcases List.mem_append.mp member with here | later
      · obtain ⟨widget, kept, rfl⟩ := List.mem_map.mp here
        exact ⟨func.name, widget, List.mem_of_mem_filter kept, rfl⟩
      · exact ih later

theorem mem_createdWidgets_log {functions : List Func} {event : Event}
    (member : event ∈ (createdWidgets lib functions).log) :
    ∃ func arity, event = .ignoredCreate func arity := by
  induction functions with
  | nil => cases member
  | cons func rest ih =>
      unfold createdWidgets at member
      cases created : Name.created? lib func.name with
      | none =>
          rw [created] at member
          exact ih member
      | some widget =>
          simp only [created] at member
          by_cases arity : func.params.length = createArity
          · rw [if_pos arity, Logged.bind_log, Logged.pure_log, List.append_nil] at member
            exact ih member
          · rw [if_neg arity, Logged.bind_log, Logged.emit_log] at member
            rcases List.mem_cons.mp member with rfl | later
            · exact ⟨_, _, rfl⟩
            · exact ih later

end Pass

section Extracted

variable {lib : Text} {separated : Bool} {functions : List Func}

theorem extract_log :
    (extract lib separated functions).log =
      (createdWidgets lib functions).log ++
      (functions.foldlM (assign lib separated) (gathered lib separated
        (functions.filterMap (Func.introduces? lib)).eraseDups [])).log ++
      [.extracted (extract lib separated functions).value.length] := by
  have start (names : List Text) :
      names.map (fun name => { name : Widget }) = gathered lib separated names [] := rfl
  simp [extract, createdWidgets_value, start]

/-- A report of a repetition is about a widget that there is. -/
theorem mem_extract_log {event : Event} (member : event ∈ (extract lib separated functions).log) :
    (∃ func arity, event = .ignoredCreate func arity) ∨
      (∃ func, ∃ widget ∈ (extract lib separated functions).value,
        event = .declaredAgain func widget.name) ∨
      event = .extracted (extract lib separated functions).value.length := by
  rw [extract_log] at member
  rcases List.mem_append.mp member with front | last
  · rcases List.mem_append.mp front with ignored | repeated
    · exact .inl (mem_createdWidgets_log ignored)
    · obtain ⟨func, name, listed, same⟩ := mem_foldlM_log repeated
      have known : name ∈ (extract lib separated functions).value.map Widget.name :=
        extract_names.symm ▸ listed
      obtain ⟨widget, extracted, rfl⟩ := List.mem_map.mp known
      exact .inr (.inl ⟨func, widget, extracted, same⟩)
  · exact .inr (.inr (List.mem_singleton.mp last))

/-- The log of a name is in step with the methods of a widget. -/
theorem count_extract_log {widget : Widget}
    (extracted : widget ∈ (extract lib separated functions).value) (name : Text) :
    (extract lib separated functions).log.count (.declaredAgain name widget.name) =
      widget.methods.countP (·.name = name) - 1 := by
  have listed := List.mem_map_of_mem (f := Widget.name) extracted
  have distinct : ((extract lib separated functions).value.map Widget.name).Nodup :=
    nodup_extract_names
  rw [extract_names] at listed distinct
  have pass : (functions.foldlM (assign lib separated) (gathered lib separated
      (functions.filterMap (Func.introduces? lib)).eraseDups [])).log.count
        (.declaredAgain name widget.name) +
        (declarations lib separated widget.name name [] - 1) =
      declarations lib separated widget.name name functions - 1 :=
    count_foldlM_log distinct listed [] functions
  have total : declarations lib separated widget.name name functions =
      widget.methods.countP (·.name = name) := by
    simp [declarations, methods_of_mem_extract extracted, List.countP_filter, and_comm]
  have unreported : Event.declaredAgain name widget.name ∉ (createdWidgets lib functions).log := by
    intro member
    obtain ⟨_, _, same⟩ := mem_createdWidgets_log member
    cases same
  rw [extract_log, List.count_append, List.count_append, List.count_eq_zero_of_not_mem unreported,
    ← total]
  simpa [declarations] using pass

theorem entry_eq_redeclaring_iff
    (identifiers : ∀ func ∈ functions, Name.isIdentifier func.name = true) {widget : Widget}
    (extracted : widget ∈ (extract lib separated functions).value) {event : Event}
    (member : event ∈ (extract lib separated functions).log) {name : Text} :
    event.entry = .redeclaring name widget.name ↔ event = .declaredAgain name widget.name := by
  have unquoted {other : Widget} (listed : other ∈ (extract lib separated functions).value) :
      '\'' ∉ other.name :=
    (word_of_mem_extract identifiers listed).1.notMem (by decide)
  refine Iff.intro (fun same => ?_) (fun same => by rw [same, Event.entry_declaredAgain])
  rcases mem_extract_log member with ⟨_, _, rfl⟩ | ⟨func, other, listed, rfl⟩ | rfl
  · exact absurd same Event.entry_ignoredCreate_ne
  · rw [Event.entry_declaredAgain] at same
    obtain ⟨rfl, sameWidget⟩ :=
      (Entry.redeclaring_inj (unquoted listed) (unquoted extracted)).mp same
    rw [sameWidget]
  · cases same

theorem count_map_entry
    (identifiers : ∀ func ∈ functions, Name.isIdentifier func.name = true) {widget : Widget}
    (extracted : widget ∈ (extract lib separated functions).value) (name : Text) :
    ((extract lib separated functions).log.map Event.entry).count (.redeclaring name widget.name) =
      widget.methods.countP (·.name = name) - 1 := by
  rw [← count_extract_log extracted, List.count_eq_countP, List.count_eq_countP, List.countP_map]
  refine List.countP_congr fun event member => ?_
  simpa using entry_eq_redeclaring_iff identifiers extracted member

/-- Methods of one name are reported, and nothing is reported without them. -/
theorem forall_redeclaring_notMem_iff
    (identifiers : ∀ func ∈ functions, Name.isIdentifier func.name = true) :
    (∀ name widget, Entry.redeclaring name widget ∉
        (extract lib separated functions).log.map Event.entry) ↔
      ∀ widget ∈ (extract lib separated functions).value,
        (widget.methods.map Func.name).Nodup := by
  have methods (widget : Widget) (name : Text) :
      (widget.methods.map Func.name).count name = widget.methods.countP (·.name = name) := by
    rw [List.count_eq_countP, List.countP_map]
    exact List.countP_congr fun func _ => by simp
  refine Iff.intro (fun silent widget extracted => ?_) (fun distinct name widget member => ?_)
  · refine List.nodup_iff_count_le_one.mpr fun name => ?_
    have counted := count_map_entry identifiers extracted name
    rw [List.count_eq_zero_of_not_mem (silent name widget.name)] at counted
    rw [methods]
    omega
  · obtain ⟨event, logged, same⟩ := List.mem_map.mp member
    rcases mem_extract_log logged with ⟨_, _, rfl⟩ | ⟨func, other, extracted, rfl⟩ | rfl
    · exact Event.entry_ignoredCreate_ne same
    · have reported := List.count_pos_iff.mpr logged
      have once := List.nodup_iff_count_le_one.mp (distinct other extracted) func
      rw [count_extract_log extracted] at reported
      rw [methods] at once
      omega
    · cases same

/-- The last event is the only one above debugging. -/
theorem exists_extract_log_eq (lib : Text) (separated : Bool) (functions : List Func) :
    ∃ events, (extract lib separated functions).log =
        events ++ [.extracted (extract lib separated functions).value.length] ∧
      ∀ event ∈ events, event.level = .debug := by
  refine ⟨_, extract_log, fun event member => ?_⟩
  rcases List.mem_append.mp member with ignored | repeated
  · obtain ⟨_, _, rfl⟩ := mem_createdWidgets_log ignored
    rfl
  · obtain ⟨_, _, _, rfl⟩ := mem_foldlM_log repeated
    rfl

theorem card_captured_eq_length :
    (functions.filterMap (Func.introduces? lib)).toFinset.card =
      (extract lib separated functions).value.length := by
  have distinct : ((extract lib separated functions).value.map Widget.name).Nodup :=
    nodup_extract_names
  have same : ((extract lib separated functions).value.map Widget.name).toFinset =
      (functions.filterMap (Func.introduces? lib)).toFinset := by
    ext name
    rw [extract_names]
    simp
  rw [← same, List.toFinset_card_of_nodup distinct, List.length_map]

/-- For every widget and every name the log of an extraction reports the methods of the name but
one, so it is free of such reports exactly if no widget has two methods of one name. Its last entry
is the only one above debugging and says how many different widgets the functions introduce. -/
theorem extract_log_exact (lib : Text) (separated : Bool)
    (identifiers : ∀ func ∈ functions, Name.isIdentifier func.name = true) :
    let widgets := (extract lib separated functions).value
    let log := (extract lib separated functions).log.map Event.entry
    (∀ widget ∈ widgets, ∀ name,
      log.count (.redeclaring name widget.name) = widget.methods.countP (·.name = name) - 1) ∧
    ((∀ name widget, Entry.redeclaring name widget ∉ log) ↔
      ∀ widget ∈ widgets, (widget.methods.map Func.name).Nodup) ∧
    ∃ front, log = front ++
        [⟨.info, "Extracted " ++
          Text.ofNat (functions.filterMap (Func.introduces? lib)).toFinset.card ++ " widgets."⟩] ∧
      ∀ entry ∈ front, entry.level = .debug := by
  intro widgets log
  obtain ⟨events, split, debug⟩ := exists_extract_log_eq lib separated functions
  refine ⟨fun widget extracted name => count_map_entry identifiers extracted name,
    forall_redeclaring_notMem_iff identifiers, events.map Event.entry, ?_,
    List.forall_mem_map.mpr debug⟩
  unfold log
  rw [split, List.map_append, card_captured_eq_length]
  rfl

end Extracted

/-- A width is set by a function that is declared three times, in the widget of the button alone. -/
theorem extract_log_exact_button :
    let width : Func :=
      { name := "lv_btn_set_width", params := [⟨"btn", ⟨"lv_obj_t *"⟩⟩, ⟨"width", ⟨"int32_t"⟩⟩] }
    let functions := width :: buttonApi ++ [width]
    let log := (extract "lv_" false functions).log.map Event.entry
    (∀ func ∈ functions, Name.isIdentifier func.name = true) ∧
      log.count (.redeclaring "lv_btn_set_width" "btn") = 2 ∧
      log.count (.redeclaring "lv_btnmatrix_create" "btn") = 0 ∧
      log.getLast? = some ⟨.info, "Extracted 2 widgets."⟩ := by
  intro width functions log
  have identifiers : ∀ func ∈ functions, Name.isIdentifier func.name = true := by decide
  obtain ⟨counts, -, front, closing, -⟩ := extract_log_exact "lv_" false identifiers
  have extracted :
      ⟨"btn", width :: buttonApi ++ [width]⟩ ∈ (extract "lv_" false functions).value := by
    decide
  refine ⟨identifiers, counts _ extracted "lv_btn_set_width",
    counts _ extracted "lv_btnmatrix_create", ?_⟩
  unfold log
  rw [closing, List.getLast?_concat]
  decide

end WidgetBindings
