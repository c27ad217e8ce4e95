import Mathlib.Data.List.Nodup
import WidgetBindings.Proofs.Identifier
import WidgetBindings.Proofs.ReadingWrappers

namespace WidgetBindings

/-! Parameter names in one signature.

A function's parameters have different names, and mostly so have the parameters of its method. Only
a word that cannot be raw takes a name that another parameter may have already. The signature then
declares one identifier twice, and where strings are copied, one copy takes the place of the other.
-/

namespace Name

variable {names : List Text}

theorem nodup_map_escape_iff (plain : ∀ name ∈ names, '#' ∉ name) (distinct : names.Nodup) :
    (names.map escape).Nodup ↔ ∀ first ∈ names, ∀ second ∈ names, ¬ TakesName first second := by
  rw [List.nodup_map_iff_inj_on distinct]
  refine Iff.intro ?_ ?_
  · intro injective first firstListed second secondListed takes
    have same := injective first firstListed second secondListed (escape_eq_of_takesName takes)
    have longer : second = first ++ "_" := takes.2
    rw [← same] at longer
    exact absurd (List.self_eq_append_right.mp longer) (by decide)
  · intro apart first firstListed second secondListed same
    rcases (escape_eq_iff (plain first firstListed) (plain second secondListed)).mp same with
      equal | takes | takes
    · exact equal
    · exact absurd takes (apart first firstListed second secondListed)
    · exact absurd takes (apart second secondListed first firstListed)

end Name

/-- The identifiers of a parameter list. The receiver comes first and has none. -/
def declaredIdents (list : Text) : List Text :=
  (list.splitOn ',').tail.map fun declaration => (declaration.drop 1).takeWhile (· != ':')

/-- The line in which an identifier comes to stand for the copy of its string. -/
def copyLine (ident : Text) : Text :=
  "    let " ++ ident ++ " = cstr_core::CString::new(" ++ ident ++ ")?;\n"

namespace Argument

theorem ident_of_declaration {argument : Argument} (word : Name.IsWord argument.ident) :
    argument.declaration.takeWhile (· != ':') = argument.ident := by
  have free : ∀ char ∈ argument.ident, (char != ':') = true := by
    intro char member
    exact bne_iff_ne.mpr fun same => word.notMem (by decide) (same ▸ member)
  unfold declaration
  rw [List.append_assoc, List.takeWhile_append_of_pos free]
  exact List.append_nil _

theorem text_copying (argument : Argument) :
    Row.text ⟨1, argument.copying⟩ = copyLine argument.ident := by
  have opening : Text.padding 1 ++ ("let " : Text) = "    let " := by decide
  have closing : (")?;" : Text) ++ ("\n" : Text) = ")?;\n" := by decide
  unfold Row.text Text.line copying copyLine
  rw [← opening, ← closing]
  simp only [List.append_assoc]

theorem flatMap_text_rows (argument : Argument) :
    argument.rows.flatMap Row.text =
      (([argument].filter (·.type.passing = .ownedCopy)).map ident).flatMap copyLine := by
  unfold rows
  cases passed : argument.type.passing with
  | direct => simp [passed]
  | ownedCopy => simp [passed, text_copying]

theorem flatMap_preparation {arguments : List Argument}
    (idents : ∀ argument ∈ arguments, Name.IsWord argument.ident) :
    arguments.flatMap (fun argument => Text.indent 1 argument.preparation) =
      ((arguments.filter (·.type.passing = .ownedCopy)).map ident).flatMap copyLine := by
  induction arguments with
  | nil => rfl
  | cons argument rest ih =>
      obtain ⟨word, words⟩ := List.forall_mem_cons.mp idents
      rw [List.flatMap_cons, ih words, indent_preparation word, flatMap_text_rows,
        ← List.flatMap_append, ← List.map_append, ← List.filter_append, List.singleton_append]

end Argument

namespace Method

variable {method : Method}

theorem declaredIdents_declarations
    (idents : ∀ argument ∈ method.arguments, Name.IsWord argument.ident) :
    declaredIdents
        (commaSeparated (method.receiver.text :: method.arguments.map Argument.declaration)) =
      method.arguments.map Argument.ident := by
  unfold declaredIdents
  rw [splitOn_commaSeparated (notMem_declarations idents (by decide) (by decide)), List.tail_cons,
    List.map_map, List.map_map]
  refine List.map_congr_left fun argument declared => ?_
  exact Argument.ident_of_declaration (idents argument declared)

theorem bracket_notMem_declarations
    (idents : ∀ argument ∈ method.arguments, Name.IsWord argument.ident) :
    ')' ∉ commaSeparated (method.receiver.text :: method.arguments.map Argument.declaration) := by
  intro member
  rcases mem_intercalate member with between | ⟨part, listed, inside⟩
  · exact absurd between (by decide)
  · exact notMem_declarations idents (by decide) (by decide) part listed inside

/-- A text opens with its signature, and goes on with the lines that make the copies. -/
theorem exists_text_eq_copies (idents : ∀ argument ∈ method.arguments, Name.IsWord argument.ident) :
    ∃ rest, method.text = "pub fn " ++ method.name ++ "(" ++
        commaSeparated (method.receiver.text :: method.arguments.map Argument.declaration) ++
        ") -> crate::LvResult<()> \x7b\n" ++
        ((method.arguments.filter (·.type.passing = .ownedCopy)).map Argument.ident).flatMap
          copyLine ++ "    unsafe \x7b\n" ++ rest := by
  have closing : (") -> crate::LvResult<()> \x7b" : Text) ++ ("\n" : Text) =
      ") -> crate::LvResult<()> \x7b\n" := by decide
  have block : Text.line 1 "unsafe \x7b" = "    unsafe \x7b\n" := by decide
  have margin (content : Text) : Text.line 0 content = content ++ "\n" := rfl
  refine ⟨Text.line 2 (nativeCall method.callee
      ("self.core.raw()?.as_mut()" :: method.arguments.map Argument.operand) ++ ";") ++
    Text.line 1 "\x7d" ++ Text.line 1 "Ok(())" ++ Text.line 0 "\x7d", ?_⟩
  unfold text signature
  rw [Argument.flatMap_preparation idents, block, margin, ← closing]
  simp only [List.append_assoc]

end Method

section Parameters

variable {params : List Param} {arguments : List Argument}

theorem map_ident_eq
    (found : List.Forall₂ (fun param argument => param.argument = .ok argument) params arguments) :
    arguments.map Argument.ident = params.map Param.ident := by
  have pairs := congrArg (List.map Prod.fst) (map_mapped_eq found)
  rw [List.map_map, List.map_map] at pairs
  exact pairs.symm

/-- Strings are the arguments that are copied. -/
theorem map_ident_filter_eq
    (found : List.Forall₂ (fun param argument => param.argument = .ok argument) params arguments) :
    (arguments.filter (·.type.passing = .ownedCopy)).map Argument.ident =
      (params.filter (·.type.isString)).map Param.ident := by
  induction found with
  | nil => rfl
  | @cons param argument params arguments done _ ih =>
      obtain ⟨mapped, named⟩ := Param.argument_eq_ok_iff.mp done
      have passed := CType.passing_of_rustType? mapped
      have head : ([argument].filter (·.type.passing = .ownedCopy)).map Argument.ident =
          ([param].filter (·.type.isString)).map Param.ident := by
        rw [CType.passing] at passed
        by_cases string : param.type.isString
        · rw [if_pos string] at passed
          simp [← passed, string, named, Param.ident]
        · rw [if_neg string] at passed
          simp [← passed, string]
      rw [← List.singleton_append, ← List.singleton_append (l := params), List.filter_append,
        List.filter_append, List.map_append, List.map_append, head, ih]

end Parameters

namespace Func

variable {lib widget : Text} {func : Func} {binding : Method}

/-- The signature of a method declares the escaped names of the parameters behind the receiver, and
a line for each string makes its escaped name stand for the copy. The declared identifiers are
different exactly if no word that cannot be raw meets the parameter whose name it takes. -/
theorem declaredIdents_exact
    (identifiers : ∀ param ∈ func.params.tail, Name.isIdentifier param.name = true)
    (distinct : (func.params.tail.map Param.name).Nodup)
    (bound : func.method lib widget = .ok binding) :
    ∃ declared rest, ')' ∉ declared ∧
      binding.text = "pub fn " ++ Name.escape (Name.withinWidget lib widget func.name) ++ "(" ++
        declared ++ ") -> crate::LvResult<()> \x7b\n" ++
        ((func.params.tail.filter (·.type.isString)).map Param.ident).flatMap copyLine ++
        "    unsafe \x7b\n" ++ rest ∧
      declaredIdents declared = func.params.tail.map Param.ident ∧
      ((declaredIdents declared).Nodup ↔
        ∀ first ∈ func.params.tail, ∀ second ∈ func.params.tail,
          ¬ Name.TakesName first.name second.name) := by
  obtain ⟨receiver, params, arguments, split, -, mapped, rfl⟩ := method_eq_ok_iff.mp bound
  rw [split, List.tail_cons] at identifiers distinct ⊢
  have idents : ∀ argument ∈ arguments, Name.IsWord argument.ident := by
    intro argument member
    obtain ⟨param, listed, done⟩ := forall₂_exists_right mapped argument member
    rw [(Param.argument_eq_ok_iff.mp done).2]
    exact (Name.isWord_of_isIdentifier (identifiers param listed)).escape
  let binding : Method := ⟨Name.escape (Name.withinWidget lib widget func.name),
    receiver.type.receiver, arguments, func.name⟩
  obtain ⟨rest, text⟩ := binding.exists_text_eq_copies idents
  have declared := (binding.declaredIdents_declarations idents).trans (map_ident_eq mapped)
  have plain : ∀ name ∈ params.map Param.name, '#' ∉ name :=
    List.forall_mem_map.mpr fun param listed => Name.mark_notMem (identifiers param listed)
  have escaped : params.map Param.ident = (params.map Param.name).map Name.escape :=
    List.map_map.symm
  rw [map_ident_filter_eq mapped] at text
  refine ⟨_, rest, binding.bracket_notMem_declarations idents, text, declared, ?_⟩
  rw [declared, escaped, Name.nodup_map_escape_iff plain distinct]
  simp only [List.forall_mem_map]

/-- A reserved word, a word that cannot be raw and a string stay apart. -/
theorem declaredIdents_exact_label :
    let func : Func :=
      { name := "lv_label_set_text"
        params := [⟨"label", ⟨"lv_obj_t *"⟩⟩, ⟨"self", ⟨"const char *"⟩⟩, ⟨"super_", ⟨"bool"⟩⟩,
          ⟨"type", ⟨"uint8_t"⟩⟩] }
    ∃ binding declared, func.method "lv_" "label" = .ok binding ∧
      (∀ param ∈ func.params.tail, Name.isIdentifier param.name = true) ∧
      (func.params.tail.map Param.name).Nodup ∧
      (∃ rest, binding.text = "pub fn set_text(" ++ declared ++
        ") -> crate::LvResult<()> \x7b\n" ++ copyLine "self_" ++ "    unsafe \x7b\n" ++ rest) ∧
      declaredIdents declared = (["self_", "super_", "r#type"] : List Text) ∧
      (declaredIdents declared).Nodup := by
  intro func
  obtain ⟨binding, bound⟩ : ∃ binding, func.method "lv_" "label" = .ok binding := ⟨_, rfl⟩
  have identifiers : ∀ param ∈ func.params.tail, Name.isIdentifier param.name = true := by decide
  have distinct : (func.params.tail.map Param.name).Nodup := by decide
  obtain ⟨declared, rest, -, text, idents, apart⟩ :=
    declaredIdents_exact identifiers distinct bound
  refine ⟨binding, declared, bound, identifiers, distinct, ⟨rest, text⟩, idents, ?_⟩
  exact apart.mpr (by decide)

/-- Two different parameters are declared under one identifier, and the copy of the first one is
replaced by a copy of the copy. -/
theorem declaredIdents_self_twice :
    let func : Func :=
      { name := "lv_btn_say"
        params := [⟨"btn", ⟨"lv_obj_t *"⟩⟩, ⟨"self", ⟨"const char *"⟩⟩,
          ⟨"self_", ⟨"const char *"⟩⟩] }
    (∀ param ∈ func.params.tail, Name.isIdentifier param.name = true) ∧
      (func.params.tail.map Param.name).Nodup ∧
      (∃ binding, func.method "lv_" "btn" = .ok binding ∧
        binding.text = "pub fn say(" ++ "&mut self, self_: &str, self_: &str" ++
          ") -> crate::LvResult<()> \x7b\n" ++ copyLine "self_" ++ copyLine "self_" ++
          "    unsafe \x7b\n" ++
          "        lvgl_sys::lv_btn_say(self.core.raw()?.as_mut(), " ++
          "self_.as_ptr(), self_.as_ptr());\n    \x7d\n    Ok(())\n\x7d\n") ∧
      ¬ (declaredIdents "&mut self, self_: &str, self_: &str").Nodup := by
  intro func
  exact ⟨by decide, by decide, ⟨_, rfl, by decide +kernel⟩, by decide⟩

end Func

end WidgetBindings
