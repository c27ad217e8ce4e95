import WidgetBindings.CommandLine.Options
import WidgetBindings.Proofs.Fallible

namespace WidgetBindings.CommandLine

/-! What one more argument does to a command line, in front of the others and behind them.

Words take effect from left to right. An option in front therefore meets all the others as they are,
as long as none of them looks at what it has changed, and an option behind them has the last say.
-/

namespace Draft

variable {draft after : Draft} {words : List Word}

def debugging (draft : Draft) : Draft :=
  { draft with debug := true }

theorem set_debugging (draft : Draft) (value : Given) (setting : Setting) :
    draft.debugging.set value setting = (draft.set value setting).debugging := by
  cases setting <;> rfl

theorem turnOn_debugging (draft : Draft) (switch : Switch) :
    draft.debugging.turnOn switch = debugging <$> draft.turnOn switch := by
  cases switch <;> rfl

theorem foldlM_turnOn_debugging (draft : Draft) (switches : List Switch) :
    switches.foldlM turnOn draft.debugging = debugging <$> switches.foldlM turnOn draft := by
  induction switches generalizing draft with
  | nil => rfl
  | cons switch rest ih =>
      rw [List.foldlM_cons, List.foldlM_cons, turnOn_debugging, map_bind, bind_map_left]
      exact bind_congr ih

/-- No word looks at whether debugging is on. -/
theorem take_debugging (draft : Draft) (words : List Word) :
    draft.debugging.take words = debugging <$> draft.take words := by
  fun_induction take draft words with
  | case1 draft => rfl
  | case2 draft text rest ih => exact ih
  | case3 draft text rest ih => exact ih
  | case4 draft rest ih => exact ih
  | case5 draft opt attachment rest error failed => simp [take, failed]
  | case6 draft opt attachment rest switches complete ih =>
      simp only [take, complete, foldlM_turnOn_debugging, map_bind, bind_map_left, ih]
  | case7 draft opt attachment rest switches setting text given ih =>
      simp only [take, given, foldlM_turnOn_debugging, map_bind, bind_map_left, set_debugging, ih]
  | case8 draft opt attachment switches setting needs text later ih =>
      simp only [take, needs, foldlM_turnOn_debugging, map_bind, bind_map_left, set_debugging, ih]
  | case9 draft opt attachment rest switches setting needs valueless =>
      simp only [take, needs]
      rfl

/-- An option at the end that waits for its value is an error, so what comes behind the words never
changes how they are read. -/
theorem take_append (taken : draft.take words = .ok after) (more : List Word) :
    draft.take (words ++ more) = after.take more := by
  fun_induction take draft words with
  | case1 draft => rw [← Except.ok.inj taken, List.nil_append]
  | case2 draft text rest ih => exact ih taken
  | case3 draft text rest ih => exact ih taken
  | case4 draft rest ih => exact ih taken
  | case5 draft opt attachment rest error failed => cases taken
  | case6 draft opt attachment rest switches complete ih =>
      obtain ⟨switched, switching, taken⟩ := bind_eq_ok_iff.mp taken
      simp only [List.cons_append, take, complete, switching]
      exact ih switched taken
  | case7 draft opt attachment rest switches setting text given ih =>
      obtain ⟨switched, switching, taken⟩ := bind_eq_ok_iff.mp taken
      simp only [List.cons_append, take, given, switching]
      exact ih switched taken
  | case8 draft opt attachment switches setting needs text later ih =>
      obtain ⟨switched, switching, taken⟩ := bind_eq_ok_iff.mp taken
      simp only [List.cons_append, take, needs, switching]
      exact ih switched taken
  | case9 draft opt attachment rest switches setting needs valueless => cases taken

theorem strays_foldlM_turnOn {switches : List Switch}
    (switching : switches.foldlM turnOn draft = .ok after) : after.strays = draft.strays := by
  induction switches generalizing draft with
  | nil => rw [Except.ok.inj switching]
  | cons switch rest ih =>
      obtain ⟨switched, turned, switching⟩ := bind_eq_ok_iff.mp switching
      rw [ih switching]
      cases switch <;> cases turned <;> rfl

theorem strays_set (draft : Draft) (value : Given) (setting : Setting) :
    (draft.set value setting).strays = draft.strays := by
  cases setting <;> rfl

theorem strays_addStray_ne_nil (draft : Draft) (word : Text) : (draft.addStray word).strays ≠ [] :=
  List.concat_ne_nil _ _

/-- Two dashes alone are always left over, so nothing is left over only where there are none. -/
theorem terminator_not_mem (taken : draft.take words = .ok after) (clean : after.strays = []) :
    draft.strays = [] ∧ .terminator ∉ words := by
  fun_induction take draft words with
  | case1 draft =>
      cases taken
      exact ⟨clean, List.not_mem_nil⟩
  -- A word that is left over stays, whatever comes behind it.
  | case2 draft text rest ih => exact absurd (ih taken).1 (strays_addStray_ne_nil _ _)
  | case3 draft text rest ih => exact absurd (ih taken).1 (strays_addStray_ne_nil _ _)
  | case4 draft rest ih => exact absurd (ih taken).1 (strays_addStray_ne_nil _ _)
  | case5 draft opt attachment rest error failed => cases taken
  | case6 draft opt attachment rest switches complete ih =>
      obtain ⟨switched, switching, taken⟩ := bind_eq_ok_iff.mp taken
      obtain ⟨kept, absent⟩ := ih switched taken
      exact ⟨strays_foldlM_turnOn switching ▸ kept, by simpa using absent⟩
  | case7 draft opt attachment rest switches setting text given ih =>
      obtain ⟨switched, switching, taken⟩ := bind_eq_ok_iff.mp taken
      obtain ⟨kept, absent⟩ := ih switched taken
      rw [strays_set, strays_foldlM_turnOn switching] at kept
      exact ⟨kept, by simpa using absent⟩
  | case8 draft opt attachment switches setting needs text later ih =>
      obtain ⟨switched, switching, taken⟩ := bind_eq_ok_iff.mp taken
      obtain ⟨kept, absent⟩ := ih switched taken
      rw [strays_set, strays_foldlM_turnOn switching] at kept
      exact ⟨kept, by simpa using absent⟩
  | case9 draft opt attachment rest switches setting needs valueless => cases taken

theorem finish_debugging (draft : Draft) :
    draft.debugging.finish = (fun options => { options with debug := true }) <$> draft.finish := by
  rcases draft with ⟨_ | _, _, _, _, _, _, _, _, _, _ | _⟩ <;> rfl

theorem strays_of_finish {options : Options} (finished : draft.finish = .ok options) :
    draft.strays = [] := by
  unfold finish at finished
  split at finished
  · cases finished
  · cases finished
  · next clean => exact clean

theorem finish_set_output (draft : Draft) (value : Given) :
    (draft.set value .output).finish =
      (fun options => { options with output := value }) <$> draft.finish := by
  rcases draft with ⟨_ | _, _, _, _, _, _, _, _, _, _ | _⟩ <;> rfl

theorem finish_listWidgets (draft : Draft) :
    { draft with listWidgets := true }.finish =
      (fun options => { options with listWidgets := true }) <$> draft.finish := by
  rcases draft with ⟨_ | _, _, _, _, _, _, _, _, _, _ | _⟩ <;> rfl

end Draft

theorem readWords_cons {text : Text} {word : Word} (ordinary : text ≠ ("--" : Text))
    (reads : Word.ofText text = .ok word) (rest : List Text) :
    readWords (text :: rest) = (word :: ·) <$> readWords rest := by
  rw [readWords, if_neg ordinary, reads]
  cases readWords rest <;> rfl

theorem readWords_append {arguments : List Text} {words : List Word}
    (reads : readWords arguments = .ok words) (unended : .terminator ∉ words) (more : List Text) :
    readWords (arguments ++ more) = (words ++ ·) <$> readWords more := by
  induction arguments generalizing words with
  | nil =>
      cases reads
      exact (id_map _).symm
  | cons text rest ih =>
      unfold readWords at reads
      split at reads
      · cases reads
        exact absurd List.mem_cons_self unended
      · next ordinary =>
          obtain ⟨word, first, others⟩ := bind_eq_ok_iff.mp reads
          obtain ⟨later, restReads, joined⟩ := bind_eq_ok_iff.mp others
          cases joined
          rw [List.cons_append, readWords, if_neg ordinary, first,
            ih restReads fun listed => unended (List.mem_cons_of_mem _ listed)]
          cases readWords more <;> rfl

theorem parse_eq (arguments : List Text) :
    parse arguments = (do
      let words ← (readWords arguments).mapError .misuse
      let draft ← Draft.take {} words
      draft.finish.mapError .misuse) := by
  unfold parse
  cases readWords arguments with
  | error error => rfl
  | ok words =>
      change _ = Draft.take {} words >>= fun draft => draft.finish.mapError .misuse
      dsimp only
      cases Draft.take {} words <;> rfl

theorem parse_eq_ok_iff {arguments : List Text} {options : Options} :
    parse arguments = .ok options ↔ ∃ words, readWords arguments = .ok words ∧
      ∃ draft, Draft.take {} words = .ok draft ∧ draft.finish = .ok options := by
  simp only [parse_eq, bind_eq_ok_iff, mapError_eq_ok_iff]

theorem readWords_debug (arguments : List Text) :
    readWords ("--debug" :: arguments) =
      (.option (.lone .debug) .none :: ·) <$> readWords arguments :=
  readWords_cons (by decide) (by decide) arguments

/-- In front of all others the debugging option adds itself to whatever they come to. -/
theorem parse_debug (arguments : List Text) :
    parse ("--debug" :: arguments) =
      (fun options => { options with debug := true }) <$> parse arguments := by
  rw [parse_eq, parse_eq, readWords_debug]
  cases readWords arguments with
  | error error => rfl
  | ok words =>
      have taken : Draft.take {} (.option (.lone .debug) .none :: words) =
          Draft.debugging <$> Draft.take {} words := Draft.take_debugging {} words
      change Draft.take {} (.option (.lone .debug) .none :: words) >>= _ =
        _ <$> (Draft.take {} words >>= _)
      rw [taken, bind_map_left, map_bind]
      refine bind_congr fun draft => ?_
      rw [draft.finish_debugging]
      cases draft.finish <;> rfl

/-- Behind a command line that is understood more words only add what they change themselves. -/
theorem parse_append {arguments more : List Text} {options : Options} {words : List Word}
    {change : Draft → Draft} {result : Options → Options} (parsed : parse arguments = .ok options)
    (reads : readWords more = .ok words) (taken : ∀ draft, Draft.take draft words = .ok (change draft))
    (finished : ∀ draft, (change draft).finish = result <$> draft.finish) :
    parse (arguments ++ more) = .ok (result options) := by
  obtain ⟨before, readsBefore, draft, takenBefore, finishedBefore⟩ := parse_eq_ok_iff.mp parsed
  have clean : draft.strays = [] := Draft.strays_of_finish finishedBefore
  refine parse_eq_ok_iff.mpr ⟨before ++ words, ?_, change draft, ?_, ?_⟩
  · rw [readWords_append readsBefore (Draft.terminator_not_mem takenBefore clean).2, reads]
    rfl
  · exact (Draft.take_append takenBefore words).trans (taken draft)
  · rw [finished, finishedBefore]
    rfl

/-- Two dashes behind an equals sign take back whatever output was given before. -/
theorem parse_no_output {arguments : List Text} {options : Options}
    (parsed : parse arguments = .ok options) :
    parse (arguments ++ ["--output=--".toList]) = .ok { options with output := none } :=
  have read : readWords ["--output=--".toList] =
      .ok [.option (.valued .output) (.value "--")] := by decide
  parse_append parsed read (fun _ => rfl) (Draft.finish_set_output · none)

theorem parse_list_widgets {arguments : List Text} {options : Options}
    (parsed : parse arguments = .ok options) :
    parse (arguments ++ ["--list-widgets".toList]) = .ok { options with listWidgets := true } :=
  have read : readWords ["--list-widgets".toList] =
      .ok [.option (.lone .listWidgets) .none] := by decide
  parse_append parsed read (fun _ => rfl) Draft.finish_listWidgets

end WidgetBindings.CommandLine
