import Mathlib.Data.List.Nodup
import WidgetBindings.Proofs.Binding
import WidgetBindings.Proofs.Definition
import WidgetBindings.Proofs.Extraction

namespace WidgetBindings

/-! Which function of a widget becomes its constructor.

Three rules decide about create functions: one finds widgets, one hands out methods, and one looks
at the name within the widget when a wrapper is written. They agree on the function that has the
widget's stem and ends in `create`.
-/

theorem constructorText_opens (callee : Text) :
    ("pub fn new<C>(" : Text) <+: constructorText callee := by
  unfold constructorText
  simp only [List.append_assoc]
  exact ⟨_, rfl⟩

/-- The native call of a constructor: the parent, and a null pointer for the object to copy. -/
def constructorCall (callee : Text) : Text :=
  "lvgl_sys::" ++ callee ++ "(parent.raw()?.as_mut(), core::ptr::null_mut())"

theorem constructorCall_eq (callee : Text) :
    constructorCall callee =
      nativeCall callee ["parent.raw()?.as_mut()", "core::ptr::null_mut()"] := by
  unfold constructorCall nativeCall
  rw [List.append_assoc _ (commaSeparated _), List.append_assoc _ ("(" : Text)]
  rfl

theorem constructorText_calls {callee : Text} (word : Name.IsWord callee) :
    constructorCall callee <:+: constructorText callee := by
  have rows : (Wrapper.constructor callee).text = (constructorRows callee).flatMap Row.text :=
    Wrapper.text_eq_rows word
  have listed : ⟨2, "let ptr = " ++ constructorCall callee ++ ";"⟩ ∈ constructorRows callee := by
    simp only [constructorCall_eq, constructorRows, List.mem_cons, true_or, or_true]
  have inRow : constructorCall callee <:+:
      Row.text ⟨2, "let ptr = " ++ constructorCall callee ++ ";"⟩ :=
    (List.infix_append _ _ _).trans (List.infix_append _ _ _)
  rw [← Wrapper.text, rows, List.flatMap_def]
  exact inRow.trans (List.infix_of_mem_flatten (List.mem_map_of_mem listed))

theorem Method.exists_text_eq (method : Method) :
    ∃ rest, method.text = ("pub fn " : Text) ++ (method.name ++ '(' :: rest) := by
  unfold text signature Text.line
  simp only [List.append_assoc]
  exact ⟨_, rfl⟩

/-- The bracket behind a method's name comes before any type parameter. -/
theorem Method.not_opens {method : Method} (word : Name.IsWord method.name) :
    ¬ ("pub fn new<C>(" : Text) <+: method.text := by
  intro ⟨rest, split⟩
  obtain ⟨behind, text⟩ := method.exists_text_eq
  have opening : ("pub fn new<C>(" : Text) ++ rest = "pub fn " ++ ("new<C>" ++ '(' :: rest) := rfl
  rw [text, opening] at split
  have bracket : '(' ∉ method.name := word.notMem (by decide)
  have name := (eq_of_append_delimiter (by decide) bracket (List.append_cancel_left split)).1
  exact absurd (name ▸ word) (by decide)

namespace Func

/-- What is written for a function inside a widget. -/
def Renders (lib widget : Text) (func : Func) (text : Text) : Prop :=
  (func.tryWrapper lib widget).value.map Wrapper.text = some text

def RendersConstructor (lib widget : Text) (func : Func) : Prop :=
  ∃ text, func.Renders lib widget text ∧ ("pub fn new<C>(" : Text) <+: text ∧
    constructorCall func.name <:+: text

variable {lib widget : Text} {func : Func}

theorem renders_iff {text : Text} :
    func.Renders lib widget text ↔
      ∃ wrapper, func.wrapper lib widget = .ok wrapper ∧ wrapper.text = text := by
  simp only [Renders, tryWrapper_value, Option.map_eq_some_iff, toOption_eq_some_iff]

theorem rendersConstructor_of_create (word : Name.IsWord func.name)
    (create : Name.withinWidget lib widget func.name = ("create" : Text)) :
    func.RendersConstructor lib widget := by
  have wrapper := wrapper_eq_ok_iff.mpr (.inl ⟨create, rfl⟩)
  exact ⟨constructorText func.name, renders_iff.mpr ⟨_, wrapper, rfl⟩,
    constructorText_opens func.name, constructorText_calls word⟩

theorem create_of_renders {text : Text} (word : Name.IsWord func.name)
    (renders : func.Renders lib widget text) (opens : ("pub fn new<C>(" : Text) <+: text) :
    Name.withinWidget lib widget func.name = ("create" : Text) := by
  obtain ⟨wrapper, found, rfl⟩ := renders_iff.mp renders
  rcases wrapper_eq_ok_iff.mp found with ⟨create, -⟩ | ⟨-, binding, bound, rfl⟩
  · exact create
  · obtain ⟨receiver, params, arguments, -, -, -, rfl⟩ := method_eq_ok_iff.mp bound
    have within := word.of_subset (Name.withinWidget_suffix lib widget func.name).subset
    exact absurd opens (Method.not_opens within.escape)

/-- The full name of a method never counts as `create`, because it holds an underscore. -/
theorem withinWidget_eq_create_iff_of_belongsTo {separated : Bool}
    (exclusive : separated = true ∨ '_' ∈ lib) (belongs : func.BelongsTo lib separated widget) :
    Name.withinWidget lib widget func.name = ("create" : Text) ↔
      func.name = lib ++ widget ++ "_create" := by
  refine Name.withinWidget_eq_create_iff.trans (or_iff_left ?_)
  intro ⟨foreign, full⟩
  obtain ⟨-, starts⟩ := belongs
  cases separated with
  | true => exact foreign starts
  | false =>
      have inLib : '_' ∈ lib := exclusive.resolve_left Bool.false_ne_true
      have inName : '_' ∈ func.name :=
        starts.subset (List.mem_append_left _ (List.mem_append_left _ inLib))
      rw [full] at inName
      exact absurd inName (by decide)

theorem name_eq_of_creates {widget : Text} (identifier : Name.isIdentifier func.name = true)
    (creates : Name.Creates lib widget func.name) : func.name = lib ++ widget ++ "_create" := by
  obtain ⟨-, -, plain | closed⟩ := creates
  · exact plain
  · have word := Name.isWord_of_isIdentifier identifier
    have newline : '\n' ∈ func.name := by
      rw [closed]
      exact List.mem_append_right _ (by decide)
    exact absurd newline (word.notMem (by decide))

theorem belongsTo_of_name_eq {separated : Bool} (handle : func.TakesHandle)
    (named : func.name = lib ++ widget ++ "_create") : func.BelongsTo lib separated widget := by
  refine ⟨handle, ?_⟩
  rw [named]
  refine (List.prefix_append_right_inj _).mpr ?_
  cases separated <;> decide

end Func

section Extracted

variable {lib : Text} {separated : Bool} {functions : List Func} {widget : Widget}

theorem rendersConstructor_iff_of_mem_methods
    (identifiers : ∀ func ∈ functions, Name.isIdentifier func.name = true)
    (exclusive : separated = true ∨ '_' ∈ lib)
    (extracted : widget ∈ (extract lib separated functions).value) {func : Func}
    (method : func ∈ widget.methods) :
    func.RendersConstructor lib widget.name ↔ func.name = lib ++ widget.name ++ "_create" := by
  obtain ⟨listed, belongs⟩ := (mem_methods_iff extracted).mp method
  have word := Name.isWord_of_isIdentifier (identifiers func listed)
  rw [← Func.withinWidget_eq_create_iff_of_belongsTo exclusive belongs]
  exact ⟨fun ⟨text, renders, opens, _⟩ => Func.create_of_renders word renders opens,
    Func.rendersConstructor_of_create word⟩

theorem exists_origin (distinct : (functions.map Func.name).Nodup)
    (identifiers : ∀ func ∈ functions, Name.isIdentifier func.name = true)
    (extracted : widget ∈ (extract lib separated functions).value) :
    ∃ origin ∈ functions, origin.params.length = 2 ∧ Name.Creates lib widget.name origin.name ∧
      ∀ func ∈ functions, func.name = lib ++ widget.name ++ "_create" → func = origin := by
  obtain ⟨origin, listed, arity, creates⟩ := exists_creates_of_mem_extract extracted
  have named := Func.name_eq_of_creates (identifiers origin listed) creates
  exact ⟨origin, listed, arity, creates, fun func other same =>
    List.inj_on_of_nodup_map distinct other listed (same.trans named.symm)⟩

theorem pairwise_not_rendersConstructor (distinct : (functions.map Func.name).Nodup)
    (identifiers : ∀ func ∈ functions, Name.isIdentifier func.name = true)
    (exclusive : separated = true ∨ '_' ∈ lib)
    (extracted : widget ∈ (extract lib separated functions).value) :
    widget.methods.Pairwise fun first second =>
      ¬ (first.RendersConstructor lib widget.name ∧
        second.RendersConstructor lib widget.name) := by
  have rendersIff {func : Func} (method : func ∈ widget.methods) :=
    rendersConstructor_iff_of_mem_methods identifiers exclusive extracted method
  have apart : functions.Pairwise (·.name ≠ ·.name) := List.pairwise_map.mp distinct
  have methodsApart : widget.methods.Pairwise (·.name ≠ ·.name) := by
    rw [methods_of_mem_extract extracted]
    exact apart.sublist List.filter_sublist
  refine methodsApart.imp_of_mem fun {first second} firstMethod secondMethod different => ?_
  intro ⟨firstRenders, secondRenders⟩
  have firstNamed := (rendersIff firstMethod).mp firstRenders
  have secondNamed := (rendersIff secondMethod).mp secondRenders
  exact different (firstNamed.trans secondNamed.symm)

/-- A widget has at most one constructor, and has one if the function that introduces the widget
can be called on a parent. -/
theorem constructor_exact (distinct : (functions.map Func.name).Nodup)
    (identifiers : ∀ func ∈ functions, Name.isIdentifier func.name = true)
    (exclusive : separated = true ∨ '_' ∈ lib)
    (extracted : widget ∈ (extract lib separated functions).value) :
    (∀ func ∈ widget.methods,
      (func.RendersConstructor lib widget.name ↔ func.name = lib ++ widget.name ++ "_create") ∧
      (∀ text, func.Renders lib widget.name text → ("pub fn new<C>(" : Text) <+: text →
        func.RendersConstructor lib widget.name) ∧
      (func.RendersConstructor lib widget.name → func.params.length = 2)) ∧
    widget.methods.Pairwise (fun first second =>
      ¬ (first.RendersConstructor lib widget.name ∧
        second.RendersConstructor lib widget.name)) ∧
    ∃ origin ∈ functions,
      (∀ func ∈ functions, func.params.length = 2 ∧ Name.Creates lib widget.name func.name ↔
        func = origin) ∧
      ((∃ func ∈ widget.methods, func.RendersConstructor lib widget.name) ↔
        origin.TakesHandle) := by
  obtain ⟨origin, originListed, arity, creates, only⟩ :=
    exists_origin distinct identifiers extracted
  have rendersIff {func : Func} (method : func ∈ widget.methods) :=
    rendersConstructor_iff_of_mem_methods identifiers exclusive extracted method
  have isOrigin {func : Func} (method : func ∈ widget.methods)
      (renders : func.RendersConstructor lib widget.name) : func = origin :=
    only func ((mem_methods_iff extracted).mp method).1 ((rendersIff method).mp renders)
  refine ⟨?_, ?_, origin, originListed, ?_, ?_⟩
  · intro func method
    refine ⟨rendersIff method, fun text renders opens => ?_, fun renders => ?_⟩
    · have word := Name.isWord_of_isIdentifier
        (identifiers func ((mem_methods_iff extracted).mp method).1)
      exact Func.rendersConstructor_of_create word (Func.create_of_renders word renders opens)
    · rw [isOrigin method renders]
      exact arity
  · exact pairwise_not_rendersConstructor distinct identifiers exclusive extracted
  · intro func listed
    refine Iff.intro (fun ⟨_, other⟩ => ?_) (fun same => same ▸ ⟨arity, creates⟩)
    exact only func listed (Func.name_eq_of_creates (identifiers func listed) other)
  · have named := Func.name_eq_of_creates (identifiers origin originListed) creates
    refine Iff.intro (fun ⟨func, method, renders⟩ => ?_) (fun handle => ?_)
    · have belongs := ((mem_methods_iff extracted).mp method).2
      exact isOrigin method renders ▸ belongs.1
    · have method : origin ∈ widget.methods := (mem_methods_iff extracted).mpr
        ⟨originListed, Func.belongsTo_of_name_eq handle named⟩
      exact ⟨origin, method, (rendersIff method).mpr named⟩

/-- Without the separator the button also gets the create function of the button matrix, which
is no constructor there. -/
theorem constructor_exact_button :
    (buttonApi.map Func.name).Nodup ∧
      (∀ func ∈ buttonApi, Name.isIdentifier func.name = true) ∧
      (false = true ∨ '_' ∈ ("lv_" : Text)) ∧
      ⟨"btn", buttonApi⟩ ∈ (extract "lv_" false buttonApi).value ∧
      ∀ func ∈ buttonApi,
        func.RendersConstructor "lv_" "btn" ↔ func.name = "lv_" ++ "btn" ++ ("_create" : Text) := by
  have extracted : ⟨"btn", buttonApi⟩ ∈ (extract "lv_" false buttonApi).value := by decide
  have result := constructor_exact (by decide) (by decide) (by decide) extracted
  exact ⟨by decide, by decide, by decide, extracted, fun func method => (result.1 func method).1⟩

end Extracted

end WidgetBindings
