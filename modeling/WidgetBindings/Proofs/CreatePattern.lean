import Mathlib.Data.List.Nodup
import WidgetBindings.Proofs.Naming

namespace WidgetBindings.Name

/-! The names of create functions as the matches of a pattern.

A pattern is searched for from the start of a name. Every piece may take several runs of characters,
and where a later piece fails, the search comes back for the next one. For create functions it never
has to: at most one of all the ways through the pattern succeeds, and that one is what the first
underscore behind the library's prefix leads to.
-/

/-- A piece of a pattern: plain text, one or more characters other than a given one, or the end. -/
inductive Piece
  | plain (text : Text)
  | others (excluded : Char)
  | ending
deriving DecidableEq, Repr

/-- The runs without a character at the start of a text, the longest first, each with what is left
behind it. -/
def runs (excluded : Char) : Text → List (Text × Text)
  | [] => []
  | char :: rest =>
      if char = excluded then []
      else (runs excluded rest).map (fun (run, left) => (char :: run, left)) ++ [([char], rest)]

/-- What a piece can take from the start of a text, in the order in which it is tried. A line feed
may stand behind the end. -/
def Piece.ways (text : Text) : Piece → List (Text × Text)
  | .plain word => ((word.isPrefixOf? text).map fun rest => (word, rest)).toList
  | .others excluded => runs excluded text
  | .ending => if text = [] ∨ text = ['\n'] then [([], text)] else []

/-- All ways through a pattern, each as what its pieces take. -/
def search : List Piece → Text → List (List Text)
  | [], _ => [[]]
  | piece :: more, text =>
      (piece.ways text).flatMap fun (taken, rest) => (search more rest).map (taken :: ·)

/-- The library's prefix, what is captured, and `_create` at the end. No character of the prefix has
a meaning of its own. -/
def createPattern (lib : Text) : List Piece :=
  [.plain lib, .others '_', .plain "_create", .ending]

section Ways

variable {excluded : Char} {text taken rest : Text} {piece : Piece} {pattern : List Piece}

theorem mem_runs_iff :
    (taken, rest) ∈ runs excluded text ↔ taken ≠ [] ∧ excluded ∉ taken ∧ text = taken ++ rest := by
  induction text generalizing taken with
  | nil => cases taken <;> simp [runs]
  | cons char later ih =>
      unfold runs
      by_cases same : char = excluded
      · cases taken with
        | nil => simp [same]
        | cons first more => grind
      · simp only [if_neg same, List.mem_append, List.mem_map, List.mem_singleton]
        cases taken with
        | nil => simp
        | cons first more => grind

theorem nodup_runs : ((runs excluded text).map Prod.fst).Nodup := by
  induction text with
  | nil => exact List.nodup_nil
  | cons char later ih =>
      unfold runs
      by_cases same : char = excluded
      · rw [if_pos same]
        exact List.nodup_nil
      · have longer :
            ((runs excluded later).map fun (run, left) => (char :: run, left)).map Prod.fst =
              ((runs excluded later).map Prod.fst).map (char :: ·) := by
          simp only [List.map_map, Function.comp_def]
        rw [if_neg same, List.map_append, longer]
        refine (ih.map List.cons_injective).append (List.nodup_singleton _) ?_
        intro run member single
        obtain ⟨shorter, inside, rfl⟩ := List.mem_map.mp member
        obtain ⟨⟨_, left⟩, listed, rfl⟩ := List.mem_map.mp inside
        have nonempty := (mem_runs_iff.mp listed).1
        grind

theorem Piece.nodup_ways : ((piece.ways text).map Prod.fst).Nodup := by
  cases piece with
  | plain word => cases found : word.isPrefixOf? text <;> simp [ways, found]
  | others excluded => exact nodup_runs
  | ending => by_cases closes : text = [] ∨ text = ['\n'] <;> simp [ways, closes]

/-- No way through a pattern is tried twice. -/
theorem nodup_search : (search pattern text).Nodup := by
  induction pattern generalizing text with
  | nil => exact List.nodup_singleton _
  | cons piece more ih =>
      unfold search
      refine List.nodup_flatMap.mpr ⟨fun way _ => ih.map List.cons_injective, ?_⟩
      refine (List.pairwise_map.mp Piece.nodup_ways).imp fun {first second} different => ?_
      intro way firstWay secondWay
      obtain ⟨_, _, rfl⟩ := List.mem_map.mp firstWay
      obtain ⟨_, _, same⟩ := List.mem_map.mp secondWay
      exact different (List.cons.inj same).1.symm

theorem mem_search_cons_iff {way : List Text} :
    way ∈ search (piece :: pattern) text ↔ ∃ taken rest later,
      (taken, rest) ∈ piece.ways text ∧ later ∈ search pattern rest ∧ way = taken :: later := by
  simp only [search, List.mem_flatMap, List.mem_map, Prod.exists]
  grind

theorem mem_search_plain_iff {word : Text} {way : List Text} :
    way ∈ search (.plain word :: pattern) text ↔ ∃ rest later,
      text = word ++ rest ∧ later ∈ search pattern rest ∧ way = word :: later := by
  have taken (run rest : Text) :
      (run, rest) ∈ (Piece.plain word).ways text ↔ run = word ∧ text = word ++ rest := by
    simp [Piece.ways, List.isPrefixOf?_eq_some_iff_append_eq, eq_comm, and_comm]
  simp only [mem_search_cons_iff, taken, and_assoc, exists_and_left, exists_eq_left]

theorem mem_search_others_iff {way : List Text} :
    way ∈ search (.others excluded :: pattern) text ↔ ∃ run rest later,
      run ≠ [] ∧ excluded ∉ run ∧ text = run ++ rest ∧ later ∈ search pattern rest ∧
        way = run :: later := by
  simp only [mem_search_cons_iff, Piece.ways, mem_runs_iff, and_assoc]

theorem mem_search_ending_iff {way : List Text} :
    way ∈ search [.ending] text ↔ (text = [] ∨ text = ['\n']) ∧ way = [[]] := by
  by_cases closes : text = [] ∨ text = ['\n'] <;> simp [search, Piece.ways, closes]

end Ways

variable {lib func : Text}

/-- A way through the pattern captures a widget that the name creates. -/
theorem mem_search_createPattern_iff {way : List Text} :
    way ∈ search (createPattern lib) func ↔
      ∃ widget, Creates lib widget func ∧ way = [lib, widget, "_create", []] := by
  refine Iff.intro (fun found => ?_) ?_
  · obtain ⟨_, _, rfl, behindLib, rfl⟩ := mem_search_plain_iff.mp found
    obtain ⟨widget, _, _, nonempty, unbroken, rfl, behindWidget, rfl⟩ :=
      mem_search_others_iff.mp behindLib
    obtain ⟨ending, _, rfl, last, rfl⟩ := mem_search_plain_iff.mp behindWidget
    obtain ⟨closes, rfl⟩ := mem_search_ending_iff.mp last
    refine ⟨widget, ⟨nonempty, unbroken, ?_⟩, rfl⟩
    rcases closes with rfl | rfl
    · exact .inl (by rw [List.append_nil, List.append_assoc])
    · exact .inr (List.append_assoc _ _ _).symm
  · rintro ⟨widget, ⟨nonempty, unbroken, whole⟩, rfl⟩
    obtain ⟨ending, closes, rfl⟩ : ∃ ending, (ending = [] ∨ ending = ['\n']) ∧
        func = lib ++ (widget ++ ("_create" ++ ending)) := by
      rcases whole with rfl | rfl
      · exact ⟨[], .inl rfl, by rw [List.append_nil, List.append_assoc]⟩
      · exact ⟨['\n'], .inr rfl, List.append_assoc _ _ _⟩
    refine mem_search_plain_iff.mpr ⟨_, _, rfl, ?_, rfl⟩
    refine mem_search_others_iff.mpr ⟨widget, _, _, nonempty, unbroken, rfl, ?_, rfl⟩
    refine mem_search_plain_iff.mpr ⟨ending, _, rfl, ?_, rfl⟩
    exact mem_search_ending_iff.mpr ⟨closes, rfl⟩

/-- The search succeeds in one way at most, and captures what the name creates. -/
theorem search_createPattern_eq (lib func : Text) :
    search (createPattern lib) func =
      (created? lib func).toList.map fun widget => [lib, widget, "_create", []] := by
  cases created : created? lib func with
  | none =>
      refine List.eq_nil_iff_forall_not_mem.mpr fun way found => ?_
      obtain ⟨widget, creates, -⟩ := mem_search_createPattern_iff.mp found
      rw [created?_eq_some_iff.mpr creates] at created
      cases created
  | some widget =>
      refine List.perm_singleton.mp ?_
      refine (List.perm_ext_iff_of_nodup nodup_search (List.nodup_singleton _)).mpr fun way => ?_
      simp only [mem_search_createPattern_iff, ← created?_eq_some_iff, created, Option.some.injEq,
        exists_eq_left', List.mem_singleton]

/-- A name creates a widget exactly if it is the library's prefix, a part that is not empty and has
no underscore, and `_create`, whether or not a line feed closes it. The part is unique, and it is
what the only way through the pattern captures. Nothing else is matched. -/
theorem created?_exact (lib func : Text) :
    (∀ widget, created? lib func = some widget ↔
      widget ≠ [] ∧ '_' ∉ widget ∧
        (func = lib ++ widget ++ "_create" ∨ func = lib ++ widget ++ "_create" ++ "\n")) ∧
    (∀ first second, Creates lib first func → Creates lib second func → first = second) ∧
    (created? lib func = none ↔ ¬ ∃ widget, Creates lib widget func) ∧
    search (createPattern lib) func =
      (created? lib func).toList.map fun widget => [lib, widget, "_create", []] := by
  have exact (widget : Text) : created? lib func = some widget ↔ Creates lib widget func :=
    created?_eq_some_iff
  refine ⟨fun widget => ?_, fun first second firstCreates secondCreates => ?_, ?_,
    search_createPattern_eq lib func⟩
  · have joined : lib ++ widget ++ "_create" ++ "\n" = lib ++ widget ++ "_create\n" :=
      List.append_assoc _ _ _
    rw [exact, joined, Creates]
  · have same := ((exact first).mpr firstCreates).symm.trans ((exact second).mpr secondCreates)
    exact Option.some.inj same
  · simp only [← exact, Option.eq_none_iff_forall_ne_some, not_exists, ne_eq]

/-- The prefix may itself end in `_create`, and be full of marks; what is captured may hold a line
feed, and one more may stand behind the end. -/
example : created? "lv.*_create" "lv.*_createa\nb_create\n" = some "a\nb".toList := by
  decide

end WidgetBindings.Name
