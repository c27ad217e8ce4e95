import WidgetBindings.CommandLine.Run
import WidgetBindings.Proofs.Arguments
import WidgetBindings.Proofs.Files
import WidgetBindings.Proofs.Loading

namespace WidgetBindings

/-! How runs end, and what they leave in the file system.

A run comes to a generator, to a reason why there is none, or to neither, when it breaks off because
of a setting or a path that cannot be used. It generates code from a generator unless it is asked for
a listing, and it writes code unless there is no output for it.
-/

theorem generateModule_value_ne_nil (lib : Text) (widgets : List Widget) :
    (generateModule lib widgets).value ≠ [] := by
  intro empty
  cases empty

namespace CommandLine

namespace Options

def invocation (options : Options) (input : Text) : Invocation :=
  ⟨input, languageArguments ++ options.parserArguments⟩

/-- What loading comes to under these options, if a run gets that far. -/
inductive Loads (options : Options) (files : FileSystem) (parser : CParser) :
    Except LoadError Generator → Prop
  | missing {input : Text} (given : options.input = some input)
      (absent : files.isFile (Path.ofText input) = .ok false) :
      Loads options files parser (.error (.notFound input))
  | refused {input reason : Text} (given : options.input = some input)
      (present : files.isFile (Path.ofText input) = .ok true)
      (refusal : parser (options.invocation input) = .error reason) :
      Loads options files parser (.error (.unparsable input reason))
  | defective {input lib : Text} {unit : SourceUnit} {defect : Defect}
      (given : options.input = some input)
      (present : files.isFile (Path.ofText input) = .ok true)
      (parsed : parser (options.invocation input) = .ok unit)
      (named : options.lib = some lib)
      (broken : (scan lib unit.declarations).defect = some defect) :
      Loads options files parser (.error (.defective defect))
  | loaded {input lib : Text} {unit : SourceUnit} (given : options.input = some input)
      (present : files.isFile (Path.ofText input) = .ok true)
      (parsed : parser (options.invocation input) = .ok unit)
      (named : options.lib = some lib)
      (sound : (scan lib unit.declarations).defect = none) :
      Loads options files parser
        (.ok (Generator.ofFunctions lib options.separated
          (scan lib unit.declarations).functions).value)

/-- What a run has asked of the parser when it ends. -/
def calls (options : Options) (files : FileSystem) : List Invocation :=
  match options.input with
  | none => []
  | some input =>
      if files.isFile (Path.ofText input) = .ok true then [options.invocation input] else []

/-- Code is generated where no listing is asked for. -/
structure Generates (options : Options) (files : FileSystem) (parser : CParser) (code : Text) :
    Prop where
  unlisted : options.listFunctions = false ∧ options.listWidgets = false
  loads : ∃ generator, options.Loads files parser (.ok generator) ∧ generator.generate.value = code

/-- The code is for a file, which says nothing yet of whether it can be written. -/
structure Delivers (options : Options) (files : FileSystem) (parser : CParser) (path : Path)
    (code : Text) : Prop extends Generates options files parser code where
  target : ∃ name, options.output = some name ∧ name ≠ [] ∧ Path.ofText name = path

variable {options : Options} {files : FileSystem} {parser : CParser}

theorem run_of_absent {input : Text} (given : options.input = some input)
    (absent : files.isFile (Path.ofText input) = .ok false) :
    (options.run files parser).value =
      { (abort files (.notFound input)).value with calls := options.calls files } := by
  simp [run, calls, given, absent, Request.readUnit_value, concludeUnit]

theorem run_of_present {input : Text} (given : options.input = some input)
    (present : files.isFile (Path.ofText input) = .ok true) :
    (options.run files parser).value =
      { (concludeUnit options files
          ((parser (options.invocation input)).mapError (.unparsable input))).value with
        calls := options.calls files } := by
  simp [run, calls, given, present, Request.readUnit_value, invocation, Request.invocation]

theorem concludeUnit_of_lib {lib : Text} (named : options.lib = some lib) (unit : SourceUnit) :
    (concludeUnit options files (.ok unit)).value =
      (conclude options files (Generator.ofUnit lib options.separated unit).value).value := by
  simp [concludeUnit, named]

theorem concludeUnit_of_no_lib (unnamed : options.lib = none) (unit : SourceUnit) :
    (concludeUnit options files (.ok unit)).value =
      { ending := .failed (.noLib (unit.declarations.any (·.exported?.isSome))), files } := by
  simp only [concludeUnit, unnamed]
  cases unit.declarations.any (·.exported?.isSome) <;> rfl

/-- What is loaded is the same, however it is presented afterwards. -/
theorem loads_presented {generator : Generator} (loads : options.Loads files parser (.ok generator))
    (listWidgets : Bool) (output : Option Text) :
    { options with listWidgets, output }.Loads files parser (.ok generator) := by
  cases loads with
  | loaded given present parsed named sound => exact .loaded given present parsed named sound

theorem run_of_loads {loaded : Except LoadError Generator}
    (loads : options.Loads files parser loaded) :
    (options.run files parser).value =
      { (conclude options files loaded).value with calls := options.calls files } := by
  cases loads with
  | missing given absent => exact run_of_absent given absent
  | refused given present refusal =>
      rw [run_of_present given present, refusal]
      rfl
  | defective given present parsed named broken =>
      rw [run_of_present given present, parsed, Except.mapError, concludeUnit_of_lib named,
        Generator.ofUnit_value, SourceUnit.functions_value, broken]
      rfl
  | loaded given present parsed named sound =>
      rw [run_of_present given present, parsed, Except.mapError, concludeUnit_of_lib named,
        Generator.ofUnit_value, SourceUnit.functions_value, sound]
      rfl

/-- Of an input that is there, only a missing prefix keeps a run from loading. -/
theorem exists_loads_or_no_lib {input : Text} (given : options.input = some input)
    (present : files.isFile (Path.ofText input) = .ok true) :
    (∃ loaded, options.Loads files parser loaded) ∨
      options.lib = none ∧ ∃ unit, parser (options.invocation input) = .ok unit := by
  cases parsed : parser (options.invocation input) with
  | error reason => exact .inl ⟨_, .refused given present parsed⟩
  | ok unit =>
      cases named : options.lib with
      | none => exact .inr ⟨rfl, unit, rfl⟩
      | some lib =>
          cases scanned : (scan lib unit.declarations).defect with
          | none => exact .inl ⟨_, .loaded given present parsed named scanned⟩
          | some defect => exact .inl ⟨_, .defective given present parsed named scanned⟩

/-- A run that loading is no part of breaks off and leaves everything as it was. -/
theorem run_of_not_loads (stuck : ¬ ∃ loaded, options.Loads files parser loaded) :
    ∃ failure, (options.run files parser).value =
      { ending := .failed failure, files, calls := options.calls files } := by
  cases given : options.input with
  | none => exact ⟨.noInput, by simp [run, calls, given]⟩
  | some input =>
      match asked : files.isFile (Path.ofText input) with
      | .error error => exact ⟨.file error, by simp [run, calls, given, asked]⟩
      | .ok false => exact absurd ⟨_, .missing given asked⟩ stuck
      | .ok true =>
          rcases exists_loads_or_no_lib given asked with loads | ⟨unnamed, unit, parsed⟩
          · exact absurd loads stuck
          · rw [run_of_present given asked, parsed, Except.mapError,
              concludeUnit_of_no_lib unnamed]
            exact ⟨_, rfl⟩

theorem target?_eq_some_iff {path : Path} :
    options.target? = some path ↔
      ∃ name, options.output = some name ∧ name ≠ [] ∧ Path.ofText name = path := by
  unfold target?
  split
  · next missing => simp [missing]
  · next empty => simp [empty]
  · next first rest given => simp [given]

theorem conclude_of_unlisted
    (unlisted : options.listFunctions = false ∧ options.listWidgets = false)
    (generator : Generator) :
    (conclude options files (.ok generator)).value =
      (deliver options files generator.generate.value).value := by
  simp [conclude, product, unlisted]

theorem run_of_generates {code : Text} (generates : options.Generates files parser code) :
    (options.run files parser).value =
      { (deliver options files code).value with calls := options.calls files } := by
  obtain ⟨generator, loads, rfl⟩ := generates.loads
  rw [run_of_loads loads, conclude_of_unlisted generates.unlisted]

theorem deliver_of_no_target (targetless : options.target? = none) (code : Text) :
    (deliver options files code).value = { ending := .exit 0, stdout := code, files } := by
  simp [deliver, targetless]

theorem deliver_of_written {path : Path} {code : Text} (target : options.target? = some path)
    (written : (files.writeBelow path code).error? = none) :
    (deliver options files code).value =
      { ending := .exit 0, files := (files.writeBelow path code).files } := by
  simp [deliver, target, written]

theorem deliver_of_failed {path : Path} {code : Text} {error : FileError}
    (target : options.target? = some path)
    (failed : (files.writeBelow path code).error? = some error) :
    (deliver options files code).value =
      { ending := .failed (.file error), files := (files.writeBelow path code).files } := by
  simp [deliver, target, failed]

/-- The ways in which a run ends once its options are known. -/
inductive Ends (options : Options) (files : FileSystem) (parser : CParser) : Outcome → Prop
  | stuck {failure : Failure} (unloaded : ¬ ∃ loaded, options.Loads files parser loaded) :
      Ends options files parser
        { ending := .failed failure, files, calls := options.calls files }
  | aborted {reason : LoadError} (loads : options.Loads files parser (.error reason)) :
      Ends options files parser { ending := .exit 1, files, calls := options.calls files }
  | listed {listing : Text} (asked : options.listFunctions = true ∨ options.listWidgets = true) :
      Ends options files parser
        { ending := .exit 0, stdout := listing, files, calls := options.calls files }
  | printed {code : Text} (generates : options.Generates files parser code)
      (targetless : options.target? = none) :
      Ends options files parser
        { ending := .exit 0, stdout := code, files, calls := options.calls files }
  | unwritten {path : Path} {code : Text} {error : FileError}
      (delivers : options.Delivers files parser path code)
      (failed : (files.writeBelow path code).error? = some error) :
      Ends options files parser
        { ending := .failed (.file error), files := (files.writeBelow path code).files
          calls := options.calls files }
  | written {path : Path} {code : Text} (delivers : options.Delivers files parser path code)
      (written : (files.writeBelow path code).error? = none) :
      Ends options files parser
        { ending := .exit 0, files := (files.writeBelow path code).files
          calls := options.calls files }

theorem ends_of_generates {code : Text} (generates : options.Generates files parser code) :
    options.Ends files parser (options.run files parser).value := by
  rw [run_of_generates generates]
  cases target : options.target? with
  | none =>
      rw [deliver_of_no_target target]
      exact .printed generates target
  | some path =>
      have delivers : options.Delivers files parser path code :=
        ⟨generates, target?_eq_some_iff.mp target⟩
      cases attempt : (files.writeBelow path code).error? with
      | some error =>
          rw [deliver_of_failed target attempt]
          exact .unwritten delivers attempt
      | none =>
          rw [deliver_of_written target attempt]
          exact .written delivers attempt

theorem run_ends (options : Options) (files : FileSystem) (parser : CParser) :
    options.Ends files parser (options.run files parser).value := by
  by_cases loading : ∃ loaded, options.Loads files parser loaded
  · obtain ⟨loaded, loads⟩ := loading
    cases loaded with
    | error reason =>
        rw [run_of_loads loads]
        exact .aborted loads
    | ok generator =>
        cases functions : options.listFunctions with
        | true =>
            rw [run_of_loads loads]
            simp only [conclude, product, functions]
            exact .listed (.inl functions)
        | false =>
            cases widgets : options.listWidgets with
            | true =>
                rw [run_of_loads loads]
                simp only [conclude, product, functions, widgets]
                exact .listed (.inr widgets)
            | false => exact ends_of_generates ⟨⟨functions, widgets⟩, generator, loads, rfl⟩
  · obtain ⟨failure, broke⟩ := run_of_not_loads loading
    rw [broke]
    exact .stuck loading

theorem generates_ne_nil {code : Text} (generates : options.Generates files parser code) :
    code ≠ [] := by
  obtain ⟨generator, -, rfl⟩ := generates.loads
  exact generateModule_value_ne_nil _ _

theorem run_of_written {path : Path} {code : Text}
    (delivers : options.Delivers files parser path code)
    (written : (files.writeBelow path code).error? = none) :
    (options.run files parser).value =
      { ending := .exit 0, files := (files.writeBelow path code).files
        calls := options.calls files } := by
  rw [run_of_generates delivers.toGenerates,
    deliver_of_written (target?_eq_some_iff.mpr delivers.target) written]

theorem run_of_failed {path : Path} {code : Text} {error : FileError}
    (delivers : options.Delivers files parser path code)
    (failed : (files.writeBelow path code).error? = some error) :
    (options.run files parser).value =
      { ending := .failed (.file error), files := (files.writeBelow path code).files
        calls := options.calls files } := by
  rw [run_of_generates delivers.toGenerates,
    deliver_of_failed (target?_eq_some_iff.mpr delivers.target) failed]

theorem run_holdsOnly (blank : files.filled = []) {path : Path} {code : Text}
    (delivers : options.Delivers files parser path code)
    (written : (files.writeBelow path code).error? = none) :
    (options.run files parser).value.files.HoldsOnly path code := by
  rw [run_of_written delivers written]
  exact FileSystem.holdsOnly_of_writeBelow blank (generates_ne_nil delivers.toGenerates) written

theorem filled_run_iff (blank : files.filled = []) :
    (options.run files parser).value.files.filled ≠ [] ↔
      ∃ path code, options.Delivers files parser path code ∧
        (files.writeBelow path code).error? = none := by
  refine Iff.intro ?_ ?_
  · intro filled
    have ends := run_ends options files parser
    generalize (options.run files parser).value = outcome at ends filled
    cases ends with
    | stuck | aborted | listed | printed => exact absurd blank filled
    | unwritten delivers failed =>
        have same := FileSystem.sameFiles_of_writeBelow failed
        exact absurd (same.filled.trans blank) filled
    | written delivers written => exact ⟨_, _, delivers, written⟩
  · intro ⟨path, code, delivers, written⟩
    obtain ⟨location, -, -, alone⟩ := run_holdsOnly blank delivers written
    rw [alone]
    exact List.cons_ne_nil _ _

theorem exit_one_iff :
    (options.run files parser).value.ending = .exit 1 ↔
      ∃ reason, options.Loads files parser (.error reason) := by
  refine Iff.intro ?_ ?_
  · intro failed
    have ends := run_ends options files parser
    generalize (options.run files parser).value = outcome at ends failed
    cases ends with
    | aborted loads => exact ⟨_, loads⟩
    | stuck | listed | printed | unwritten | written => cases failed
  · intro ⟨reason, loads⟩
    rw [run_of_loads loads]
    rfl

theorem stdout_of_not_exit_zero (unsuccessful : (options.run files parser).value.ending ≠ .exit 0) :
    (options.run files parser).value.stdout = [] := by
  have ends := run_ends options files parser
  generalize (options.run files parser).value = outcome at ends unsuccessful
  cases ends with
  | stuck | aborted | unwritten | written => rfl
  | listed | printed => exact absurd rfl unsuccessful

theorem calls_run : (options.run files parser).value.calls = options.calls files := by
  have ends := run_ends options files parser
  generalize (options.run files parser).value = outcome at ends
  cases ends <;> rfl

theorem length_calls_le (options : Options) (files : FileSystem) :
    (options.calls files).length ≤ 1 := by
  unfold calls
  split
  · exact Nat.zero_le 1
  · split
    · exact Nat.le_refl 1
    · exact Nat.zero_le 1

theorem calls_ne_nil_iff :
    options.calls files ≠ [] ↔ ∃ input content, options.input = some input ∧
      files.stat? (Path.ofText input) = some (.file content) := by
  unfold calls
  cases given : options.input with
  | none => simp
  | some input => simp [FileSystem.isFile_eq_true_iff]

/-- Without an output a run prints what it would have written. -/
theorem run_no_output {code : Text} (generates : options.Generates files parser code) :
    ({ options with output := none }.run files parser).value.stdout = code := by
  obtain ⟨generator, loads, generated⟩ := generates.loads
  have printing : { options with output := none }.Generates files parser code :=
    ⟨generates.unlisted, generator, loads_presented loads options.listWidgets none, generated⟩
  rw [run_of_generates printing, deliver_of_no_target rfl]

end Options

variable {arguments : List Text} {options : Options} {files : FileSystem} {parser : CParser}

/-- Only the events that are shown set a run of the command apart from a run of its options. -/
theorem run_of_parse (files : FileSystem) (parser : CParser)
    (parsed : parse arguments = .ok options) :
    let outcome := run arguments files parser
    let result := (options.run files parser).value
    outcome.ending = result.ending ∧ outcome.stdout = result.stdout ∧
      outcome.files = result.files ∧ outcome.calls = result.calls := by
  intro outcome result
  unfold outcome run
  rw [parsed]
  exact ⟨rfl, rfl, rfl, rfl⟩

theorem run_of_stop (files : FileSystem) (parser : CParser) {stop : Stop}
    (stopped : parse arguments = .error stop) :
    let outcome := run arguments files parser
    outcome.ending ≠ .exit 1 ∧ (outcome.ending ≠ .exit 0 → outcome.stdout = []) ∧
      outcome.files = files ∧ outcome.calls = [] := by
  intro outcome
  unfold outcome run
  rw [stopped]
  cases stop <;> simp

theorem filled_iff (arguments : List Text) (parser : CParser) (blank : files.filled = []) :
    (run arguments files parser).files.filled ≠ [] ↔ ∃ options, parse arguments = .ok options ∧
      ∃ path code, options.Delivers files parser path code ∧
        (files.writeBelow path code).error? = none := by
  cases parsed : parse arguments with
  | error stop =>
      obtain ⟨-, -, kept, -⟩ := run_of_stop files parser parsed
      simp [kept, blank]
  | ok options =>
      obtain ⟨-, -, same, -⟩ := run_of_parse files parser parsed
      simp [same, Options.filled_run_iff blank]

theorem exit_one_iff (arguments : List Text) (files : FileSystem) (parser : CParser) :
    (run arguments files parser).ending = .exit 1 ↔ ∃ options, parse arguments = .ok options ∧
      ∃ reason, options.Loads files parser (.error reason) := by
  cases parsed : parse arguments with
  | error stop =>
      obtain ⟨noFailure, -, -, -⟩ := run_of_stop files parser parsed
      simp [noFailure]
  | ok options =>
      obtain ⟨same, -, -, -⟩ := run_of_parse files parser parsed
      simp [same, Options.exit_one_iff]

theorem stdout_of_not_exit_zero
    (unsuccessful : (run arguments files parser).ending ≠ .exit 0) :
    (run arguments files parser).stdout = [] := by
  cases parsed : parse arguments with
  | error stop =>
      obtain ⟨-, silent, -, -⟩ := run_of_stop files parser parsed
      exact silent unsuccessful
  | ok options =>
      obtain ⟨sameEnding, same, -, -⟩ := run_of_parse files parser parsed
      rw [same]
      exact Options.stdout_of_not_exit_zero (sameEnding ▸ unsuccessful)

theorem calls_exact (arguments : List Text) (files : FileSystem) (parser : CParser) :
    let calls := (run arguments files parser).calls
    calls.length ≤ 1 ∧ (calls ≠ [] ↔ ∃ options, parse arguments = .ok options ∧
      ∃ input content, options.input = some input ∧
        files.stat? (Path.ofText input) = some (.file content)) := by
  cases parsed : parse arguments with
  | error stop =>
      obtain ⟨-, -, -, uncalled⟩ := run_of_stop files parser parsed
      simp [uncalled]
  | ok options =>
      obtain ⟨-, -, -, same⟩ := run_of_parse files parser parsed
      rw [same, Options.calls_run]
      refine ⟨options.length_calls_le files, Options.calls_ne_nil_iff.trans ?_⟩
      simp

/-- After a run a file has content exactly if code was generated and written. It is the only one then,
and has the text that a run without an output prints. Exactly a failure to load ends a run with one,
and nothing is printed unless a run ends well. The parser is asked at most once, and exactly about an
input that is there. -/
theorem run_exact (arguments : List Text) (parser : CParser) (blank : files.filled = []) :
    let outcome := run arguments files parser
    (outcome.files.filled ≠ [] ↔ ∃ options, parse arguments = .ok options ∧
      ∃ path code, options.Delivers files parser path code ∧
        (files.writeBelow path code).error? = none) ∧
    (∀ options path code, parse arguments = .ok options →
      options.Delivers files parser path code → (files.writeBelow path code).error? = none →
        outcome.ending = .exit 0 ∧ outcome.stdout = [] ∧ outcome.files.HoldsOnly path code ∧
        (∀ names, outcome.files.locate path = .ok (files.workingDirectory ++ names) →
          outcome.files.contents = [(Path.slashSeparated names, code)]) ∧
        (∃ others, parse others = .ok { options with output := none }) ∧
        ∀ others, parse others = .ok { options with output := none } →
          (run others files parser).stdout = code) ∧
    (∀ options path code error, parse arguments = .ok options →
      options.Delivers files parser path code →
        (files.writeBelow path code).error? = some error →
          outcome.ending = .failed (.file error)) ∧
    (outcome.ending = .exit 1 ↔ ∃ options, parse arguments = .ok options ∧
      ∃ reason, options.Loads files parser (.error reason)) ∧
    (outcome.ending ≠ .exit 0 → outcome.stdout = []) ∧
    outcome.calls.length ≤ 1 ∧
    (outcome.calls ≠ [] ↔ ∃ options, parse arguments = .ok options ∧
      ∃ input content, options.input = some input ∧
        files.stat? (Path.ofText input) = some (.file content)) := by
  intro outcome
  refine ⟨filled_iff arguments parser blank, ?_, ?_, exit_one_iff arguments files parser,
    stdout_of_not_exit_zero, calls_exact arguments files parser⟩
  · intro options path code parsed delivers written
    obtain ⟨sameEnding, sameStdout, sameFiles, -⟩ :=
      run_of_parse files parser parsed
    have ran := Options.run_of_written delivers written
    have only : outcome.files.HoldsOnly path code :=
      sameFiles ▸ Options.run_holdsOnly blank delivers written
    have stays : outcome.files.workingDirectory = files.workingDirectory := by
      rw [sameFiles, ran]
      exact FileSystem.workingDirectory_writeBelow files path code
    refine ⟨?_, ?_, only, ?_, ⟨_, parse_no_output parsed⟩, ?_⟩
    · rw [sameEnding, ran]
    · rw [sameStdout, ran]
    · intro names inside
      exact FileSystem.contents_of_holdsOnly only (stays ▸ inside)
    · intro others reparsed
      obtain ⟨-, printed, -, -⟩ := run_of_parse files parser reparsed
      exact printed.trans (Options.run_no_output delivers.toGenerates)
  · intro options path code error parsed delivers failed
    obtain ⟨sameEnding, -, -, -⟩ := run_of_parse files parser parsed
    rw [sameEnding, Options.run_of_failed delivers failed]

/-- One function is wrapped, for a file in a directory that is made on the way. -/
theorem run_exact_button :
    let create : Declaration :=
      { isFunction := true, linkage := .external, name := some "lv_btn_create", result := some "void"
        params := [⟨some "parent", some "lv_obj_t *"⟩, ⟨some "copy", some "lv_obj_t *"⟩] }
    let files : FileSystem :=
      { workingDirectory := ["work"], entries := [(["work", "lvgl.c"], .file [])] }
    let generator := (Generator.ofFunctions "lv_" false (scan "lv_" [create]).functions).value
    let outcome := run ["-i", "lvgl.c", "-o", "out/btn.rs"] files fun _ => .ok ⟨[create], []⟩
    files.filled = [] ∧ outcome.ending = .exit 0 ∧ outcome.stdout = [] ∧
      outcome.files.HoldsOnly ⟨.relative, ["out", "btn.rs"]⟩ generator.generate.value ∧
      outcome.calls ≠ [] := by
  intro create files generator outcome
  let options : Options :=
    { input := some "lvgl.c", output := some "out/btn.rs", includeDirs := [], defines := []
      lib := some "lv_", separated := false, listFunctions := false, listWidgets := false
      debug := false }
  let path : Path := ⟨.relative, ["out", "btn.rs"]⟩
  let parser : CParser := fun _ => .ok ⟨[create], []⟩
  have blank : files.filled = [] := rfl
  have parsed : parse ["-i", "lvgl.c", "-o", "out/btn.rs"] = .ok options := by decide
  have given : options.input = some "lvgl.c".toList := rfl
  have present : files.isFile (Path.ofText "lvgl.c") = .ok true := by decide
  have read : parser (options.invocation "lvgl.c") = .ok ⟨[create], []⟩ := rfl
  have named : options.lib = some "lv_".toList := rfl
  have sound : (scan "lv_" [create]).defect = none := by decide
  have loads := Options.Loads.loaded given present read named sound
  have delivers : options.Delivers files parser path generator.generate.value :=
    ⟨⟨⟨rfl, rfl⟩, generator, loads, rfl⟩, "out/btn.rs", rfl, by decide, by decide⟩
  -- The chain counts down from the number of directories that may be made, which only the kernel
  -- does in good time.
  have made : files.ensureDirectories path.parent =
      { files := files.put ["work", "out"] .directory } := by decide +kernel
  have written : (files.writeBelow path generator.generate.value).error? = none := by
    rw [FileSystem.writeBelow, made]
    rfl
  obtain ⟨-, delivered, -, -, -, -, asked⟩ :=
    run_exact ["-i", "lvgl.c", "-o", "out/btn.rs"] parser blank
  obtain ⟨ending, silent, only, -, -⟩ :=
    delivered options path generator.generate.value parsed delivers written
  exact ⟨blank, ending, silent, only, asked.mpr ⟨options, parsed, "lvgl.c", [], rfl, by decide⟩⟩

end CommandLine

end WidgetBindings
