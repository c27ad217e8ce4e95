import WidgetBindings.CommandLine.Run
import WidgetBindings.Proofs.Arguments

namespace WidgetBindings

/-! Debugging shows more of what happens and changes nothing of it. -/

namespace Level

variable {lower higher : Level}

/-- What a higher level shows, a lower level in front of it lets through. -/
theorem filter_shows_of_rank_le (below : lower.rank ≤ higher.rank) (log : List Event) :
    (log.filter lower.shows).filter higher.shows = log.filter higher.shows := by
  rw [List.filter_filter]
  refine List.filter_congr fun event _ => ?_
  simp only [shows, Bool.and_eq_left_iff_imp, decide_eq_true_eq]
  exact fun shown => Nat.le_trans below shown

theorem debug_rank_le (level : Level) : Level.debug.rank ≤ level.rank := by
  cases level <;> decide

theorem filter_shows_debug (log : List Event) : log.filter Level.debug.shows = log :=
  List.filter_eq_self.mpr fun event _ => decide_eq_true event.level.debug_rank_le

end Level

namespace CommandLine

namespace Options

theorem run_debugging (options : Options) (files : FileSystem) (parser : CParser) :
    { options with debug := true }.run files parser = options.run files parser :=
  rfl

theorem threshold_rank_le (options : Options) : options.threshold.rank ≤ Level.info.rank := by
  unfold threshold
  split <;> decide

end Options

variable {arguments : List Text} {options : Options}

theorem log_of_stop {stop : Stop} (stopped : parse arguments = .error stop) (files : FileSystem)
    (parser : CParser) : (run arguments files parser).log = [] := by
  unfold run
  rw [stopped]
  cases stop <;> rfl

theorem log_of_parse (parsed : parse arguments = .ok options) (files : FileSystem)
    (parser : CParser) :
    (run arguments files parser).log =
      (options.run files parser).log.filter options.threshold.shows := by
  unfold run
  rw [parsed]

theorem log_debug (parsed : parse arguments = .ok options) (files : FileSystem)
    (parser : CParser) :
    (run ("--debug" :: arguments) files parser).log = (options.run files parser).log := by
  have debugging : parse ("--debug" :: arguments) = .ok { options with debug := true } := by
    rw [parse_debug, parsed]
    rfl
  rw [log_of_parse debugging, options.run_debugging]
  exact Level.filter_shows_debug _

theorem filter_log_debug (arguments : List Text) (files : FileSystem) (parser : CParser) :
    (run ("--debug" :: arguments) files parser).log.filter Level.info.shows =
      (run arguments files parser).log.filter Level.info.shows := by
  cases parsed : parse arguments with
  | error stop =>
      have stopped : parse ("--debug" :: arguments) = .error stop := by
        rw [parse_debug, parsed]
        rfl
      rw [log_of_stop parsed, log_of_stop stopped]
  | ok options =>
      rw [log_debug parsed, log_of_parse parsed,
        Level.filter_shows_of_rank_le options.threshold_rank_le]

/-- Nothing but the log can differ. -/
theorem run_debug_eq (arguments : List Text) (files : FileSystem) (parser : CParser) :
    ∃ log, run ("--debug" :: arguments) files parser =
      { run arguments files parser with log := log } := by
  unfold run
  rw [parse_debug]
  cases parse arguments with
  | error stop => cases stop <;> exact ⟨[], rfl⟩
  | ok options => exact ⟨_, rfl⟩

/-- With debugging switched on in front of a command line everything ends as it does without. All
events are shown then, and of those above debugging the same as before. -/
theorem run_debug (arguments : List Text) (files : FileSystem) (parser : CParser) :
    let quiet := run arguments files parser
    let verbose := run ("--debug" :: arguments) files parser
    verbose.ending = quiet.ending ∧ verbose.stdout = quiet.stdout ∧
      verbose.complaint = quiet.complaint ∧ verbose.files = quiet.files ∧
      verbose.calls = quiet.calls ∧
      verbose.log.filter Level.info.shows = quiet.log.filter Level.info.shows ∧
      ∀ options, parse arguments = .ok options →
        verbose.log = (options.run files parser).log ∧
        (options.debug = false → quiet.log = verbose.log.filter Level.info.shows) := by
  intro quiet verbose
  obtain ⟨log, same⟩ : ∃ log, verbose = { quiet with log := log } :=
    run_debug_eq arguments files parser
  have shown (options : Options) (parsed : parse arguments = .ok options) :
      verbose.log = (options.run files parser).log := log_debug parsed files parser
  refine ⟨?_, ?_, ?_, ?_, ?_, filter_log_debug arguments files parser,
    fun options parsed => ⟨shown options parsed, fun off => ?_⟩⟩
  · rw [same]
  · rw [same]
  · rw [same]
  · rw [same]
  · rw [same]
  · rw [shown options parsed, log_of_parse parsed, Options.threshold, off]
    rfl

end CommandLine

end WidgetBindings
