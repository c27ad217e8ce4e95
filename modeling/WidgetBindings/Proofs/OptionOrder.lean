import Mathlib.Data.List.Infix
import WidgetBindings.Proofs.Runs

namespace WidgetBindings.CommandLine

/-! Options in another order.

A command line of complete options comes to a draft that can be told option by option: what is known
of one option depends on its own occurrences alone, in their order. Occurrences of different options
can therefore change places, and the run stays the same in all that can be seen of it.
-/

/-- A word that names one option: a spelling of it, or the beginning of one that no other option
has. -/
structure Spelling (opt : Opt) where
  text : Text
  names : (continuations text).map Prod.snd = [opt]

namespace Spelling

variable {opt : Opt}

def IsLong (spelling : Spelling opt) : Prop :=
  ("--" : Text) <+: spelling.text

instance (spelling : Spelling opt) : Decidable spelling.IsLong :=
  inferInstanceAs (Decidable (_ <+: _))

/-- No spelling begins another one, so each of them names its own option. -/
theorem names_of_mem_spellings :
    ∀ entry ∈ spellings, (continuations entry.1).map Prod.snd = [entry.2] := by
  decide

def listed (text : Text) (spelled : (text, opt) ∈ spellings) : Spelling opt :=
  ⟨text, names_of_mem_spellings _ spelled⟩

theorem exists_continuations (spelling : Spelling opt) :
    ∃ full, continuations spelling.text = [(full, opt)] := by
  obtain ⟨⟨full, _⟩, listed, rfl⟩ := List.map_eq_singleton_iff.mp spelling.names
  exact ⟨full, listed⟩

theorem exists_prefix (spelling : Spelling opt) :
    ∃ full, (full, opt) ∈ spellings ∧ spelling.text <+: full := by
  obtain ⟨full, listed⟩ := spelling.exists_continuations
  have continued : (full, opt) ∈ continuations spelling.text := listed ▸ List.mem_singleton_self _
  obtain ⟨spelled, start⟩ := List.mem_filter.mp continued
  exact ⟨full, spelled, List.isPrefixOf_iff_prefix.mp start⟩

theorem ne_terminator (spelling : Spelling opt) : spelling.text ≠ ("--" : Text) := by
  intro same
  have single := congrArg List.length spelling.names
  rw [same, List.length_map, List.length_singleton] at single
  exact absurd single (by decide)

theorem equals_notMem (spelling : Spelling opt) : '=' ∉ spelling.text := by
  have absent : ∀ entry ∈ spellings, '=' ∉ entry.1 := by decide
  obtain ⟨full, spelled, start⟩ := spelling.exists_prefix
  exact fun inside => absent _ spelled (start.subset inside)

theorem setting_of_isLong {setting : Setting} {spelling : Spelling (.valued setting)}
    (long : spelling.IsLong) : setting ≠ .includeDir ∧ setting ≠ .define := by
  have short : ∀ entry ∈ spellings, ("--" : Text) <+: entry.1 →
      entry.2 ≠ .valued .includeDir ∧ entry.2 ≠ .valued .define := by decide
  obtain ⟨full, spelled, start⟩ := spelling.exists_prefix
  simpa using short _ spelled (long.trans start)

theorem ofText (spelling : Spelling opt) :
    Word.ofText spelling.text = .ok (.option opt .none) := by
  have read : ∀ entry ∈ spellings, ∀ start ∈ entry.1.inits,
      (continuations start).map Prod.snd = [entry.2] →
        Word.ofText start = .ok (.option entry.2 .none) := by
    decide
  obtain ⟨full, spelled, start⟩ := spelling.exists_prefix
  exact read _ spelled _ ((List.mem_inits _ _).mpr start) spelling.names

theorem lookup_eq {found : Opt} (spelling : Spelling opt)
    (spelled : spellings.lookup spelling.text = some found) : found = opt := by
  obtain ⟨full, listed⟩ := spelling.exists_continuations
  obtain ⟨before, after, split, -⟩ := List.lookup_eq_some_iff.mp spelled
  have member : (spelling.text, found) ∈ spellings := split ▸ List.mem_append_cons_self
  have continued : (spelling.text, found) ∈ continuations spelling.text :=
    List.mem_filter.mpr ⟨member, List.isPrefixOf_iff_prefix.mpr (List.prefix_refl _)⟩
  rw [listed, List.mem_singleton] at continued
  exact congrArg Prod.snd continued

theorem splitValue_attached (spelling : Spelling opt) (value : Text) :
    splitValue (spelling.text ++ '=' :: value) = (spelling.text, .value value) := by
  have inside : ∀ char ∈ spelling.text, (char != '=') = true := by
    intro char member
    exact bne_iff_ne.mpr fun same => spelling.equals_notMem (same ▸ member)
  simp only [splitValue, List.dropWhile_append_of_pos inside, List.takeWhile_append_of_pos inside]
  simp

theorem ofText_attached (spelling : Spelling opt) (long : spelling.IsLong) (value : Text) :
    Word.ofText (spelling.text ++ '=' :: value) = .ok (.option opt (.value value)) := by
  have asLong : Word.ofText (spelling.text ++ '=' :: value) =
      Word.ofLong (spelling.text ++ '=' :: value) := by
    obtain ⟨behind, same⟩ := long
    rw [← same]
    rfl
  obtain ⟨full, listed⟩ := spelling.exists_continuations
  rw [asLong, Word.ofLong, spelling.splitValue_attached]
  cases spelled : spellings.lookup spelling.text with
  | some found => simp [spelled, spelling.lookup_eq spelled]
  | none => simp [spelled, listed]

end Spelling

theorem Word.ofText_of_undashed {value : Text} (undashed : value.head? ≠ some '-') :
    Word.ofText value = .ok (.plain value) := by
  fun_cases Word.ofText value with
  | case1 => exact absurd rfl undashed
  | case2 => exact absurd rfl undashed
  | case3 => exact absurd rfl undashed
  | case4 => rfl

/-- One option of the command line with all that belongs to it. Help is not among them: it ends the
reading. -/
inductive Occurrence
  | detached (setting : Setting) (spelling : Spelling (.valued setting)) (value : Text)
      (undashed : value.head? ≠ some '-')
  | attached (setting : Setting) (spelling : Spelling (.valued setting)) (long : spelling.IsLong)
      (value : Text)
  | alone (switch : Switch) (spelling : Spelling (.lone switch)) (noHelp : switch ≠ .help)

namespace Occurrence

def opt : Occurrence → Opt
  | detached setting _ _ _ => .valued setting
  | attached setting _ _ _ => .valued setting
  | alone switch _ _ => .lone switch

def value? : Occurrence → Option Text
  | detached _ _ value _ => some value
  | attached _ _ _ value => some value
  | alone _ _ _ => none

def arguments : Occurrence → List Text
  | detached _ spelling value _ => [spelling.text, value]
  | attached _ spelling _ value => [spelling.text ++ '=' :: value]
  | alone _ spelling _ => [spelling.text]

/-- How the arguments read. -/
def words : Occurrence → List Word
  | detached setting _ value _ => [.option (.valued setting) .none, .plain value]
  | attached setting _ _ value => [.option (.valued setting) (.value value)]
  | alone switch _ _ => [.option (.lone switch) .none]

theorem readWords_arguments (occurrence : Occurrence) (rest : List Text) :
    readWords (occurrence.arguments ++ rest) = (occurrence.words ++ ·) <$> readWords rest := by
  cases occurrence with
  | detached setting spelling value undashed =>
      have ordinary : value ≠ ("--" : Text) := fun same => undashed (same ▸ rfl)
      have read := Word.ofText_of_undashed undashed
      simp only [arguments, words, List.cons_append, List.nil_append,
        readWords_cons spelling.ne_terminator spelling.ofText, readWords_cons ordinary read]
      cases readWords rest <;> rfl
  | attached setting spelling long value =>
      have ordinary : spelling.text ++ '=' :: value ≠ ("--" : Text) := by
        intro same
        have inside : '=' ∈ ("--" : Text) := same ▸ List.mem_append_cons_self
        exact absurd inside (by decide)
      exact readWords_cons ordinary (spelling.ofText_attached long value) rest
  | alone switch spelling noHelp =>
      exact readWords_cons spelling.ne_terminator spelling.ofText rest

end Occurrence

/-- The words of a command line that is made of complete options. -/
theorem readWords_flatMap (occurrences : List Occurrence) :
    readWords (occurrences.flatMap Occurrence.arguments) =
      .ok (occurrences.flatMap Occurrence.words) := by
  induction occurrences with
  | nil => rfl
  | cons occurrence rest ih =>
      rw [List.flatMap_cons, List.flatMap_cons, occurrence.readWords_arguments, ih]
      rfl

def ofOpt (opt : Opt) (occurrences : List Occurrence) : List Occurrence :=
  occurrences.filter (·.opt = opt)

/-- Everything that a setting is given, in order. -/
def valuesOf (setting : Setting) (occurrences : List Occurrence) : List Text :=
  (ofOpt (.valued setting) occurrences).filterMap Occurrence.value?

def isOn (switch : Switch) (occurrences : List Occurrence) : Bool :=
  ofOpt (.lone switch) occurrences ≠ []

/-- What a list of options comes to, told option by option. -/
def drafted (occurrences : List Occurrence) : Draft where
  input := (valuesOf .input occurrences).getLast?.map Given.ofText
  output := (valuesOf .output occurrences).getLast?.bind Given.ofText
  includeDirs := (valuesOf .includeDir occurrences).map Given.ofText
  defines := (valuesOf .define occurrences).map Given.ofText
  lib := ((valuesOf .lib occurrences).getLast?.map Given.ofText).getD (some "lv_")
  separated := isOn .separated occurrences
  listFunctions := isOn .listFunctions occurrences
  listWidgets := isOn .listWidgets occurrences
  debug := isOn .debug occurrences

section Draft

variable {seen : List Occurrence}

theorem ofOpt_concat (opt : Opt) (occurrence : Occurrence) :
    ofOpt opt (seen ++ [occurrence]) =
      ofOpt opt seen ++ if occurrence.opt = opt then [occurrence] else [] := by
  by_cases same : occurrence.opt = opt <;> simp [ofOpt, same]

theorem valuesOf_concat (setting : Setting) (occurrence : Occurrence) :
    valuesOf setting (seen ++ [occurrence]) =
      valuesOf setting seen ++
        if occurrence.opt = .valued setting then occurrence.value?.toList else [] := by
  by_cases same : occurrence.opt = .valued setting
  · cases given : occurrence.value? <;> simp [valuesOf, ofOpt_concat, same, given]
  · simp [valuesOf, ofOpt_concat, same]

theorem isOn_concat (switch : Switch) (occurrence : Occurrence) :
    isOn switch (seen ++ [occurrence]) =
      (isOn switch seen || decide (occurrence.opt = .lone switch)) := by
  by_cases same : occurrence.opt = .lone switch <;> simp [isOn, ofOpt_concat, same]

theorem drafted_given {occurrence : Occurrence} {setting : Setting} {value : Text}
    (same : occurrence.opt = .valued setting) (given : occurrence.value? = some value) :
    drafted (seen ++ [occurrence]) = (drafted seen).set (Given.ofText value) setting := by
  cases setting <;>
    simp [drafted, Draft.set, valuesOf_concat, isOn_concat, same, given]

theorem drafted_alone {switch : Switch} (spelling : Spelling (.lone switch))
    (noHelp : switch ≠ .help) :
    (drafted seen).turnOn switch = .ok (drafted (seen ++ [.alone switch spelling noHelp])) := by
  cases switch with
  | help => exact absurd rfl noHelp
  | separated | listFunctions | listWidgets | debug =>
    simp [drafted, Draft.turnOn, valuesOf_concat, isOn_concat, Occurrence.opt]

/-- One more occurrence adds its own value or switch to what is told so far. -/
theorem take_words (occurrence : Occurrence) (rest : List Word) :
    (drafted seen).take (occurrence.words ++ rest) =
      (drafted (seen ++ [occurrence])).take rest := by
  cases occurrence with
  | detached setting spelling value undashed =>
      rw [drafted_given rfl rfl]
      rfl
  | attached setting spelling long value =>
      rw [drafted_given rfl rfl]
      rfl
  | alone switch spelling noHelp =>
      simp only [Occurrence.words, List.cons_append, List.nil_append, Draft.take, Opt.cluster,
        List.foldlM_cons, List.foldlM_nil, drafted_alone spelling noHelp]
      rfl

theorem take_flatMap (occurrences : List Occurrence) :
    (drafted seen).take (occurrences.flatMap Occurrence.words) =
      .ok (drafted (seen ++ occurrences)) := by
  induction occurrences generalizing seen with
  | nil => simp [Draft.take]
  | cons occurrence rest ih =>
      rw [List.flatMap_cons, take_words, ih, List.append_assoc, List.singleton_append]

end Draft

theorem parse_flatMap (occurrences : List Occurrence) :
    parse (occurrences.flatMap Occurrence.arguments) =
      (drafted occurrences).finish.mapError .misuse := by
  have taken : (drafted []).take (occurrences.flatMap Occurrence.words) =
      .ok (drafted ([] ++ occurrences)) := take_flatMap occurrences
  rw [parse_eq, readWords_flatMap]
  -- A draft of nothing is the draft that every command line starts from.
  change (drafted []).take (occurrences.flatMap Occurrence.words) >>= _ = _
  rw [taken]
  rfl

section Reordered

variable {first second occurrences : List Occurrence} {setting : Setting} {value : Text}

theorem drafted_congr (kept : ∀ opt, ofOpt opt first = ofOpt opt second) :
    drafted first = drafted second := by
  simp only [drafted, valuesOf, isOn, kept]

/-- Two dashes can only be the value of an option that is spelled long. -/
theorem ne_terminator_of_mem_valuesOf (short : setting = .includeDir ∨ setting = .define)
    (given : value ∈ valuesOf setting occurrences) : value ≠ ("--" : Text) := by
  obtain ⟨occurrence, chosen, holds⟩ := List.mem_filterMap.mp given
  have same : occurrence.opt = .valued setting := of_decide_eq_true (List.mem_filter.mp chosen).2
  cases occurrence with
  | detached _ spelling _ undashed =>
      cases holds
      exact fun dashes => undashed (dashes ▸ rfl)
  | attached _ spelling long _ =>
      cases same
      obtain ⟨noPath, noDefinition⟩ := Spelling.setting_of_isLong long
      exact absurd short (not_or.mpr ⟨noPath, noDefinition⟩)
  | alone _ spelling _ => cases holds

theorem map_parserValue (start : Text) (short : setting = .includeDir ∨ setting = .define) :
    ((valuesOf setting occurrences).map Given.ofText).map (start ++ Options.parserValue ·) =
      (valuesOf setting occurrences).map (start ++ ·) := by
  rw [List.map_map]
  refine List.map_congr_left fun value given => ?_
  have ordinary : value ≠ ("--" : Text) := ne_terminator_of_mem_valuesOf short given
  change start ++ Options.parserValue (Given.ofText value) = start ++ value
  rw [Given.ofText, if_neg ordinary]
  rfl

theorem parserArguments_of_finish {draft : Draft} {options : Options}
    (finished : draft.finish = .ok options) :
    options.parserArguments =
      draft.includeDirs.map ("-I".toList ++ Options.parserValue ·) ++
        draft.defines.map ("-D".toList ++ Options.parserValue ·) := by
  unfold Draft.finish at finished
  split at finished <;> cases finished
  rfl

theorem arguments_of_mem_calls {files : FileSystem} {parser : CParser} {call : Invocation}
    (called : call ∈ (run (occurrences.flatMap Occurrence.arguments) files parser).calls) :
    call.arguments = languageArguments ++
      ((valuesOf .includeDir occurrences).map ("-I".toList ++ ·) ++
        (valuesOf .define occurrences).map ("-D".toList ++ ·)) := by
  cases parsed : parse (occurrences.flatMap Occurrence.arguments) with
  | error stop =>
      obtain ⟨-, -, -, uncalled⟩ := run_of_stop files parser parsed
      rw [uncalled] at called
      cases called
  | ok options =>
      obtain ⟨-, -, -, same⟩ := run_of_parse files parser parsed
      rw [same, Options.calls_run, Options.calls] at called
      split at called
      · cases called
      · split at called
        · have finished := mapError_eq_ok_iff.mp ((parse_flatMap occurrences).symm.trans parsed)
          rw [List.mem_singleton.mp called, Options.invocation, parserArguments_of_finish finished]
          simp only [drafted, map_parserValue _ (.inl rfl), map_parserValue _ (.inr rfl)]
        · cases called

/-- Nothing that can be seen of a run changes when options are put in another order that keeps the
occurrences of each of them in theirs. If the parser is asked it is told all paths and then all
definitions, however they were mixed. -/
theorem run_reordered (kept : ∀ opt, ofOpt opt first = ofOpt opt second) (files : FileSystem)
    (parser : CParser) :
    let outcome := run (first.flatMap Occurrence.arguments) files parser
    run (second.flatMap Occurrence.arguments) files parser = outcome ∧
      ∀ call ∈ outcome.calls, call.arguments =
        ["-x".toList, "c".toList, "-std=c99".toList] ++
          ((valuesOf .includeDir first).map ("-I".toList ++ ·) ++
            (valuesOf .define first).map ("-D".toList ++ ·)) := by
  intro outcome
  have same : parse (second.flatMap Occurrence.arguments) =
      parse (first.flatMap Occurrence.arguments) := by
    rw [parse_flatMap, parse_flatMap, drafted_congr kept]
  refine ⟨?_, fun call called => arguments_of_mem_calls called⟩
  unfold outcome run
  rw [same]

end Reordered

theorem run_reordered_button :
    let path (value : Text) (undashed : value.head? ≠ some '-') : Occurrence :=
      .detached .includeDir (.listed "-I" (by decide)) value undashed
    let definition (value : Text) (undashed : value.head? ≠ some '-') : Occurrence :=
      .detached .define (.listed "-D" (by decide)) value undashed
    let input : Occurrence := .detached .input (.listed "-i" (by decide)) "lvgl.c" (by decide)
    let draft : Occurrence := .attached .output ⟨"--out", by decide⟩ (by decide) "draft.rs"
    let result : Occurrence :=
      .attached .output (.listed "--output" (by decide)) (by decide) "btn.rs"
    let debug : Occurrence := .alone .debug ⟨"--deb", by decide⟩ (by decide)
    let first := [definition "A" (by decide), path "inc" (by decide), draft, input,
      definition "B=1" (by decide), debug, result, path "sys" (by decide)]
    let second := [debug, path "inc" (by decide), draft, path "sys" (by decide), result,
      definition "A" (by decide), definition "B=1" (by decide), input]
    let files : FileSystem :=
      { workingDirectory := ["work"], entries := [(["work", "lvgl.c"], .file [])] }
    let outcome := run (first.flatMap Occurrence.arguments) files fun _ => .ok ⟨[], []⟩
    (∀ opt, ofOpt opt first = ofOpt opt second) ∧
      run (second.flatMap Occurrence.arguments) files (fun _ => .ok ⟨[], []⟩) = outcome ∧
      outcome.calls ≠ [] ∧
      ∀ call ∈ outcome.calls, call.arguments =
        ["-x".toList, "c".toList, "-std=c99".toList, "-Iinc".toList, "-Isys".toList, "-DA".toList,
          "-DB=1".toList] := by
  intro path definition input draft result debug first second files outcome
  have kept : ∀ opt, ofOpt opt first = ofOpt opt second := by
    intro opt
    rcases opt with setting | switch
    · cases setting <;> rfl
    · cases switch <;> rfl
  obtain ⟨same, told⟩ := run_reordered kept files fun _ => .ok ⟨[], []⟩
  refine ⟨kept, same, ?_, told⟩
  have parsed := parse_flatMap first
  exact (calls_exact _ files _).2.mpr ⟨_, parsed, "lvgl.c", [], rfl, by decide⟩

end WidgetBindings.CommandLine
