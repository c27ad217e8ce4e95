import WidgetBindings.Proofs.ObjectTypes
import WidgetBindings.Proofs.ReadingBack
import WidgetBindings.Proofs.Runs

namespace WidgetBindings

/-! The listing of the widgets beside the module.

Listing and module sort the widgets each on their own, and only the module leaves out the base
object. Both are texts of lines that can be read again: the listing says which widgets there are and
how many functions each has, and the module which types it defines.
-/

namespace Text

theorem isDigit_of_mem_ofNat {number : Nat} {char : Char} (member : char ∈ ofNat number) :
    char.isDigit = true :=
  Nat.isDigit_of_mem_toDigits (by decide) (by decide) member

theorem notMem_ofNat {char : Char} (other : char.isDigit = false) (number : Nat) :
    char ∉ ofNat number :=
  fun member => absurd (isDigit_of_mem_ofNat member) (Bool.eq_false_iff.mp other)

theorem toNat?_ofNat (number : Nat) : toNat? (ofNat number) = some number := by
  have digits : (ofNat number).all Char.isDigit = true :=
    List.all_eq_true.mpr fun _ => isDigit_of_mem_ofNat
  unfold toNat?
  rw [if_pos ⟨Nat.toDigits_ne_nil, digits⟩, ofNat, ← Nat.ofDigitChars_eq_foldl,
    Nat.ofDigitChars_ten_toDigits]

end Text

section Types

/-- The type that a line defines. -/
def definedType? (line : Text) : Option Text :=
  (("define_object!(" : Text).isPrefixOf? line).bind (");" : Text).isSuffixOf?

/-- The types that the lines of a module define, in their order. -/
def definedTypes (code : Text) : List Text :=
  (code.splitOn '\n').filterMap definedType?

theorem definedType?_eq_some_iff {line object : Text} :
    definedType? line = some object ↔ line = "define_object!(" ++ object ++ ");" := by
  unfold definedType?
  simp only [Option.bind_eq_some_iff, List.isPrefixOf?_eq_some_iff_append_eq,
    List.isSuffixOf?_eq_some_iff_append_eq]
  refine Iff.intro ?_ ?_
  · rintro ⟨rest, rfl, rfl⟩
    exact (List.append_assoc _ _ _).symm
  · rintro rfl
    exact ⟨object ++ ");", (List.append_assoc _ _ _).symm, rfl⟩

theorem definedType?_eq_none {line : Text} (other : line.head? ≠ some 'd') :
    definedType? line = none := by
  refine Option.eq_none_iff_forall_ne_some.mpr fun object found => ?_
  rw [definedType?_eq_some_iff.mp found] at other
  exact other rfl

/-- All but the first line of a definition are empty, or start with another letter, or are
indented. -/
theorem Definition.filterMap_lines (definition : Definition) :
    definition.lines.filterMap definedType? = [definition.object] := by
  have first : definedType? ("define_object!(" ++ definition.object ++ ");") =
      some definition.object := definedType?_eq_some_iff.mpr rfl
  have opening : definedType? ("impl " ++ definition.object ++ " \x7b") = none :=
    definedType?_eq_none (by nofun)
  have inner : definition.body.filterMap definedType? = [] := by
    refine List.filterMap_eq_nil_iff.mpr fun line member => definedType?_eq_none ?_
    rcases mem_intercalate member with inBetween | ⟨block, listed, inside⟩
    · rw [List.mem_singleton.mp inBetween]
      nofun
    · obtain ⟨wrapper, -, rfl⟩ := List.mem_map.mp listed
      obtain ⟨line, -, rfl⟩ := List.mem_map.mp inside
      nofun
  have empty : definedType? [] = none := rfl
  have closing : definedType? ("\x7d" : Text) = none := by decide
  simp only [lines, header, List.filterMap_append, List.filterMap_cons, List.filterMap_nil, first,
    empty, opening, inner, closing, List.append_nil]

theorem definedTypes_moduleText {definitions : List Definition}
    (plain : ∀ definition ∈ definitions, definition.IsPlain) :
    definedTypes (moduleText definitions) = definitions.map Definition.object := by
  have silent : definedType? [] = none := rfl
  have front : (["// Generated by lvgl-codegen - DO NOT EDIT", []] : List Text).filterMap
      definedType? = [] := by decide
  unfold definedTypes
  rw [moduleText_eq_lines plain, Text.splitOn_ofLines (newline_notMem_moduleLines plain), moduleLines,
    List.filterMap_append, List.filterMap_append, front, filterMap_intercalate silent,
    List.flatMap_map, List.map_eq_flatMap, List.filterMap_cons_none silent]
  simp only [Definition.filterMap_lines, List.nil_append, List.filterMap_nil, List.append_nil]

end Types

namespace CommandLine

section Reading

/-- The name and the number in a line of a listing. -/
def readEntry? (line : Text) : Option (Text × Nat) :=
  match line.splitOn ' ' with
  | [name, '(' :: number, last] =>
      if last = ("functions)" : Text) then (Text.toNat? number).map (name, ·) else none
  | _ => none

/-- The entries of a listing, if all of its lines can be read. -/
def readListing? (listing : Text) : Option (List (Text × Nat)) :=
  (listing.splitOn '\n').dropLast.mapM readEntry?

def entryLine (widget : Widget) : Text :=
  widget.name ++ " (" ++ Text.ofNat widget.methods.length ++ " functions)"

theorem readEntry?_entryLine {widget : Widget} (word : Name.IsWord widget.name) :
    readEntry? (entryLine widget) = some (widget.name, widget.methods.length) := by
  have number : ' ' ∉ '(' :: Text.ofNat widget.methods.length :=
    List.not_mem_cons_of_ne_of_not_mem (by decide) (Text.notMem_ofNat (by decide) _)
  have words : entryLine widget = widget.name ++ ' ' ::
      (('(' :: Text.ofNat widget.methods.length) ++ ' ' :: "functions)") := by
    unfold entryLine
    simp only [List.append_assoc]
    rfl
  have split : (entryLine widget).splitOn ' ' =
      [widget.name, '(' :: Text.ofNat widget.methods.length, "functions)"] := by
    rw [words, List.splitOn_append_cons_self_of_not_mem (word.notMem (by decide)),
      List.splitOn_append_cons_self_of_not_mem number, List.splitOn_eq_singleton (by decide)]
  unfold readEntry?
  rw [split]
  simp only [if_true, Text.toNat?_ofNat, Option.map_some]

theorem newline_notMem_entryLine {widget : Widget} (word : Name.IsWord widget.name) :
    '\n' ∉ entryLine widget := by
  have named := List.not_mem_append (word.notMem (by decide)) (by decide : '\n' ∉ (" (" : Text))
  have numbered := List.not_mem_append named
    (Text.notMem_ofNat (by decide : '\n'.isDigit = false) widget.methods.length)
  exact List.not_mem_append numbered (by decide)

theorem widgetListing_eq (generator : Generator) :
    widgetListing generator = Text.ofLines ((sortedByName generator.widgets).map entryLine) := by
  unfold widgetListing Text.ofLines
  rw [List.flatMap_map]
  refine List.flatMap_congr fun widget _ => ?_
  unfold widgetLine entryLine
  rw [List.append_assoc _ (" functions)" : Text)]
  rfl

theorem mapM_readEntry? {widgets : List Widget}
    (words : ∀ widget ∈ widgets, Name.IsWord widget.name) :
    (widgets.map entryLine).mapM readEntry? =
      some (widgets.map fun widget => (widget.name, widget.methods.length)) := by
  induction widgets with
  | nil => rfl
  | cons widget rest ih =>
      obtain ⟨word, later⟩ := List.forall_mem_cons.mp words
      rw [List.map_cons, List.mapM_cons, readEntry?_entryLine word, ih later]
      rfl

theorem readListing?_widgetListing {generator : Generator}
    (words : ∀ widget ∈ generator.widgets, Name.IsWord widget.name) :
    readListing? (widgetListing generator) =
      some ((sortedByName generator.widgets).map fun widget =>
        (widget.name, widget.methods.length)) := by
  have sortedWords : ∀ widget ∈ sortedByName generator.widgets, Name.IsWord widget.name :=
    fun widget member => words widget ((sortedByName_perm generator.widgets).mem_iff.mp member)
  have plain : ∀ line ∈ (sortedByName generator.widgets).map entryLine, '\n' ∉ line :=
    List.forall_mem_map.mpr fun widget member =>
      newline_notMem_entryLine (sortedWords widget member)
  unfold readListing?
  rw [widgetListing_eq, Text.splitOn_ofLines plain, List.dropLast_concat,
    mapM_readEntry? sortedWords]

end Reading

namespace Options

variable {options : Options} {files : FileSystem} {parser : CParser} {generator : Generator}

/-- A generator that was loaded is made of the functions that were loaded. -/
theorem eq_ofFunctions_of_loads (loads : options.Loads files parser (.ok generator)) :
    generator =
      (Generator.ofFunctions generator.lib options.separated generator.functions).value := by
  cases loads
  rfl

theorem run_listWidgets (unlisted : options.listFunctions = false)
    (loads : options.Loads files parser (.ok generator)) :
    let outcome := ({ options with listWidgets := true }.run files parser).value
    outcome.ending = .exit 0 ∧ outcome.stdout = widgetListing generator := by
  intro outcome
  unfold outcome
  rw [run_of_loads (loads_presented loads true options.output)]
  simp [conclude, product, unlisted]

/-- The code of a run is printed, or it is in the file at the output. -/
def Gives (options : Options) (outcome : Outcome) (code : Text) : Prop :=
  match options.target? with
  | none => outcome.stdout = code
  | some path => outcome.files.stat? path = some (.file code)

theorem gives_of_generates {code : Text} (generates : options.Generates files parser code)
    (finished : (options.run files parser).value.ending = .exit 0) :
    options.Gives (options.run files parser).value code := by
  unfold Gives
  rw [run_of_generates generates] at finished ⊢
  cases target : options.target? with
  | none => rw [deliver_of_no_target target]
  | some path =>
      cases attempt : (files.writeBelow path code).error? with
      | some error =>
          rw [deliver_of_failed target attempt] at finished
          cases finished
      | none =>
          rw [deliver_of_written target attempt]
          exact FileSystem.stat?_of_writeBelow attempt

end Options

section Loaded

variable {arguments : List Text} {options : Options} {generator : Generator}

/-- What a listing says of the widgets is what the functions make of them, and the module has the
types of the same names. -/
theorem readListing?_ofFunctions (lib : Text) (separated : Bool) {functions : List Func}
    (identifiers : ∀ func ∈ functions, func.HasIdentifiers) :
    let generator := (Generator.ofFunctions lib separated functions).value
    ∃ entries, readListing? (widgetListing generator) = some entries ∧
      ((entries.map Prod.fst).filter (· ≠ ("obj" : Text))).map Name.pascal =
        definedTypes generator.generate.value ∧
      ∀ entry ∈ entries, entry.2 = functions.countP (·.BelongsTo lib separated entry.1) := by
  intro generator
  have words : ∀ widget ∈ generator.widgets, Name.IsWord widget.name := fun _ extracted =>
    (word_of_mem_extract (fun func listed => (identifiers func listed).name) extracted).1
  have methods : ∀ widget ∈ generator.widgets, ∀ func ∈ widget.methods, func.HasIdentifiers :=
    fun _ extracted func method => identifiers func ((mem_methods_iff extracted).mp method).1
  refine ⟨_, readListing?_widgetListing words, ?_, ?_⟩
  · have types : definedTypes generator.generate.value =
        (definitions lib generator.widgets).value.map Definition.object :=
      definedTypes_moduleText (plain_of_mem_definitions words methods)
    rw [types, definitions_eq_map_defined, List.map_map, List.map_map, List.filter_map,
      List.map_map]
    rfl
  · refine List.forall_mem_map.mpr fun widget member => ?_
    have extracted := (sortedByName_perm generator.widgets).mem_iff.mp member
    rw [List.countP_eq_length_filter, ← methods_of_mem_extract extracted]

/-- A listing of the widgets names the types of the module that the same command generates, in their
order and with the base object beside them, and counts the functions that belong to each of them. -/
theorem listing_agrees (files : FileSystem) (parser : CParser)
    (parsed : parse arguments = .ok options)
    (unlisted : options.listFunctions = false ∧ options.listWidgets = false)
    (loads : options.Loads files parser (.ok generator))
    (identifiers : ∀ func ∈ generator.functions, func.HasIdentifiers) :
    let code := generator.generate.value
    options.Generates files parser code ∧
    ((run arguments files parser).ending = .exit 0 →
      options.Gives (run arguments files parser) code) ∧
    parse (arguments ++ ["--list-widgets".toList]) = .ok { options with listWidgets := true } ∧
    ∀ others, parse others = .ok { options with listWidgets := true } →
      (run others files parser).ending = .exit 0 ∧
      ∃ entries, readListing? (run others files parser).stdout = some entries ∧
        ((entries.map Prod.fst).filter (· ≠ ("obj" : Text))).map Name.pascal = definedTypes code ∧
        ∀ entry ∈ entries, entry.2 =
          generator.functions.countP (·.BelongsTo generator.lib options.separated entry.1) := by
  intro code
  have generates : options.Generates files parser code := ⟨unlisted, generator, loads, rfl⟩
  obtain ⟨sameEnding, sameStdout, sameFiles, -⟩ := run_of_parse files parser parsed
  refine ⟨generates, ?_, parse_list_widgets parsed, ?_⟩
  · intro finished
    have given := Options.gives_of_generates generates (sameEnding ▸ finished)
    unfold Options.Gives at given ⊢
    rw [sameStdout, sameFiles]
    exact given
  · intro others reparsed
    obtain ⟨listedEnding, listed, -, -⟩ := run_of_parse files parser reparsed
    obtain ⟨ending, stdout⟩ := Options.run_listWidgets unlisted.1 loads
    have built := Options.eq_ofFunctions_of_loads loads
    refine ⟨listedEnding.trans ending, ?_⟩
    rw [listed, stdout]
    have agree := readListing?_ofFunctions generator.lib options.separated identifiers
    rw [← built] at agree
    exact agree

/-- The base object is counted like any other widget, and only the button has a type. -/
theorem listing_agrees_button :
    let create (name : Text) : Declaration :=
      { isFunction := true, linkage := .external, name, result := some "lv_obj_t *"
        params := [⟨some "parent", some "lv_obj_t *"⟩, ⟨some "copy", some "lv_obj_t *"⟩] }
    let declarations := [create "lv_obj_create", create "lv_btn_create"]
    let files : FileSystem :=
      { workingDirectory := ["work"], entries := [(["work", "lvgl.c"], .file [])] }
    let parser : CParser := fun _ => .ok ⟨declarations, []⟩
    let functions := (scan "lv_" declarations).functions
    (∀ func ∈ functions, func.HasIdentifiers) ∧
    ∃ entries, readListing? (run ["-i", "lvgl.c", "--list-widgets"] files parser).stdout =
        some entries ∧
      ((entries.map Prod.fst).filter (· ≠ ("obj" : Text))).map Name.pascal =
        definedTypes (run ["-i", "lvgl.c"] files parser).stdout ∧
      ∀ entry ∈ entries, entry.2 = functions.countP (·.BelongsTo "lv_" false entry.1) := by
  intro create declarations files parser functions
  let options : Options :=
    { input := some "lvgl.c", output := none, includeDirs := [], defines := [], lib := some "lv_"
      separated := false, listFunctions := false, listWidgets := false, debug := false }
  have parsed : parse ["-i", "lvgl.c"] = .ok options := by decide
  have given : options.input = some "lvgl.c".toList := rfl
  have present : files.isFile (Path.ofText "lvgl.c") = .ok true := by decide
  have read : parser (options.invocation "lvgl.c") = .ok ⟨declarations, []⟩ := rfl
  have named : options.lib = some "lv_".toList := rfl
  have sound : (scan "lv_" declarations).defect = none := by decide
  have loads := Options.Loads.loaded given present read named sound
  have identifiers : ∀ func ∈ functions, func.HasIdentifiers := by decide
  obtain ⟨generates, gives, reparsed, listing⟩ :=
    listing_agrees files parser parsed ⟨rfl, rfl⟩ loads identifiers
  have ending : (run ["-i", "lvgl.c"] files parser).ending = .exit 0 := by
    obtain ⟨same, -, -, -⟩ := run_of_parse files parser parsed
    rw [same, Options.run_of_generates generates, Options.deliver_of_no_target rfl]
  have printed : (run ["-i", "lvgl.c"] files parser).stdout = _ := gives ending
  obtain ⟨-, entries, readable, types, counts⟩ := listing _ reparsed
  refine ⟨identifiers, entries, readable, ?_, counts⟩
  rw [printed]
  exact types

end Loaded

end CommandLine

end WidgetBindings
