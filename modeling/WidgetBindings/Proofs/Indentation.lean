import Mathlib.Data.List.Basic
import WidgetBindings.Text.Line

namespace WidgetBindings.Text

/-! Indentation works line by line.

A text is cut into lines in one way only, and `AreLines` says which lines those are. Spaces in front
of a line leave it one line with the same end, so that the lines of an indented text are the
indented lines.
-/

/-- What closes a line. -/
inductive IsEnding : Text → Prop
  | single {char : Char} (lineEnd : isLineEnd char = true) : IsEnding [char]
  | pair : IsEnding ['\r', '\n']

/-- Lines of a text: only the last one may be left open, and a carriage return that closes a line
on its own has no line feed behind it. -/
inductive AreLines : List Text → Prop
  | none : AreLines []
  | unclosed {content : Text} (filled : content ≠ [])
      (inner : ∀ char ∈ content, isLineEnd char = false) : AreLines [content]
  | closed {content ending : Text} {more : List Text}
      (inner : ∀ char ∈ content, isLineEnd char = false) (ends : IsEnding ending)
      (apart : ending = ['\r'] → more.flatten.head? ≠ some '\n') (later : AreLines more) :
      AreLines ((content ++ ending) :: more)

section Splitting

variable {front content ending line rest text : Text} {char : Char} {more parts : List Text}

/-- A line goes on being one when it is made longer in front. -/
theorem AreLines.prepend (split : AreLines (line :: more))
    (inner : ∀ char ∈ front, isLineEnd char = false) : AreLines ((front ++ line) :: more) := by
  cases split with
  | unclosed filled content =>
      exact .unclosed (List.append_ne_nil_of_right_ne_nil _ filled)
        (List.forall_mem_append.mpr ⟨inner, content⟩)
  | closed content ends apart later =>
      rw [← List.append_assoc]
      exact .closed (List.forall_mem_append.mpr ⟨inner, content⟩) ends apart later

theorem areLines_lines (text : Text) : AreLines (lines text) := by
  fun_induction lines text with
  | case1 => exact .none
  | case2 rest ih => exact @AreLines.closed [] _ _ (by simp) .pair (by simp) ih
  | case3 char rest unpaired lineEnd ih =>
      refine @AreLines.closed [] _ _ (by simp) (.single lineEnd) (fun carriage starts => ?_) ih
      rw [lines_flatten] at starts
      cases rest with
      | nil => cases starts
      | cons next others =>
          exact unpaired others (List.singleton_inj.mp carriage) (by simpa using starts)
  | case4 char rest _ inner none ih => exact .unclosed (by simp) (by simpa using inner)
  | case5 char rest _ inner line more split ih =>
      rw [split] at ih
      have longer : AreLines (([char] ++ line) :: more) := ih.prepend (by simpa using inner)
      exact longer

theorem lines_singleton (inner : isLineEnd char = false) : lines [char] = [[char]] := by
  rw [lines.eq_3 char [] (by simp)]
  simp [inner, lines]

theorem lines_cons_of_not_isLineEnd (inner : isLineEnd char = false)
    (split : lines text = line :: more) : lines (char :: text) = (char :: line) :: more := by
  rw [lines.eq_3 char text ?_, split]
  · simp [inner]
  · intro rest carriage _
    rw [carriage] at inner
    exact absurd inner (by decide)

theorem lines_content_append (inner : ∀ char ∈ content, isLineEnd char = false)
    (split : lines text = line :: more) : lines (content ++ text) = (content ++ line) :: more := by
  induction content with
  | nil => exact split
  | cons first content ih =>
      obtain ⟨firstInner, later⟩ := List.forall_mem_cons.mp inner
      exact lines_cons_of_not_isLineEnd firstInner (ih later)

theorem lines_ending_append (ends : IsEnding ending)
    (apart : ending = ['\r'] → rest.head? ≠ some '\n') :
    lines (ending ++ rest) = ending :: lines rest := by
  cases ends with
  | pair => rfl
  | single lineEnd =>
      rw [List.singleton_append, lines.eq_3 _ _ ?_, if_pos lineEnd]
      intro others carriage feed
      exact apart (by rw [carriage]) (by rw [feed, List.head?_cons])

theorem AreLines.lines_flatten (split : AreLines parts) : lines parts.flatten = parts := by
  induction split with
  | none => rfl
  | @unclosed content filled inner =>
      have last := lines_singleton (inner _ (List.getLast_mem filled))
      have before : ∀ char ∈ content.dropLast, isLineEnd char = false :=
        fun char member => inner char (List.dropLast_subset content member)
      rw [List.flatten_singleton, ← List.dropLast_append_getLast filled,
        lines_content_append before last]
  | closed inner ends apart later ih =>
      have closing := lines_content_append inner (lines_ending_append ends apart)
      rw [List.flatten_cons, List.append_assoc, closing, ih]

/-- There is one way to cut a text into lines. -/
theorem lines_eq_iff : lines text = parts ↔ AreLines parts ∧ parts.flatten = text := by
  refine Iff.intro (fun split => ?_) (fun ⟨split, whole⟩ => ?_)
  · rw [← split]
    exact ⟨areLines_lines text, lines_flatten text⟩
  · rw [← whole]
    exact split.lines_flatten

/-- A line feed closes the line whose content stands in front of it. -/
theorem lines_append_newline (inner : ∀ char ∈ content, isLineEnd char = false) (rest : Text) :
    lines (content ++ '\n' :: rest) = (content ++ ['\n']) :: lines rest :=
  lines_content_append inner (lines_ending_append (.single rfl) (by simp))

theorem AreLines.line_ne_nil (split : AreLines (line :: more)) : line ≠ [] := by
  cases split with
  | unclosed filled _ => exact filled
  | closed _ ends _ _ => cases ends <;> simp

/-- Behind a line feed the next line starts, whatever stands there. -/
theorem AreLines.append {first second : List Text} (front : AreLines first)
    (back : AreLines second) (feed : first.flatten.getLast? = some '\n') :
    AreLines (first ++ second) := by
  induction front with
  | none => exact back
  | @unclosed content filled inner =>
      rw [List.flatten_singleton] at feed
      exact absurd (inner '\n' (List.mem_of_getLast? feed)) (by decide)
  | @closed content ending more inner ends apart later ih =>
      cases more with
      | nil =>
          -- The line feed is in the end of this line, so that it is no lone carriage return.
          refine .closed inner ends (fun carriage => ?_) back
          simp [carriage] at feed
      | cons line others =>
          have filled : (line :: others).flatten ≠ [] := by simp [later.line_ne_nil]
          rw [List.flatten_cons, List.getLast?_append_of_ne_nil _ filled] at feed
          have unpaired (carriage : ending = ['\r']) :
              ((line :: others) ++ second).flatten.head? ≠ some '\n' := by
            rw [List.flatten_append, List.head?_append_of_ne_nil _ filled]
            exact apart carriage
          exact .closed inner ends unpaired (ih feed)

theorem lines_append_of_newline {first : Text} (feed : first.getLast? = some '\n')
    (second : Text) : lines (first ++ second) = lines first ++ lines second := by
  refine lines_eq_iff.mpr ⟨(areLines_lines first).append (areLines_lines second) ?_, ?_⟩
  · rwa [lines_flatten]
  · rw [List.flatten_append, lines_flatten, lines_flatten]

end Splitting

section Padding

variable {level : Nat} {line : Text}

theorem padding_add (first second : Nat) :
    padding first ++ padding second = padding (first + second) := by
  simp [padding, Nat.mul_add, List.replicate_append_replicate]

theorem isLineEnd_of_mem_padding : ∀ char ∈ padding level, isLineEnd char = false := by
  intro char member
  rw [List.eq_of_mem_replicate member]
  decide

theorem isBlank_append (left right : Text) :
    isBlank (left ++ right) = (isBlank left && isBlank right) :=
  List.all_append

theorem isBlank_padding (level : Nat) : isBlank (padding level) = true := by
  refine List.all_eq_true.mpr fun char member => ?_
  rw [List.eq_of_mem_replicate member]
  decide

theorem indentLine_of_blank (blank : isBlank line = true) (level : Nat) :
    indentLine level line = line :=
  if_pos blank

theorem indentLine_of_visible (visible : isBlank line = false) (level : Nat) :
    indentLine level line = padding level ++ line :=
  if_neg (by simp [visible])

theorem isBlank_indentLine (level : Nat) (line : Text) :
    isBlank (indentLine level line) = isBlank line := by
  cases blank : isBlank line with
  | true => rw [indentLine_of_blank blank, blank]
  | false => rw [indentLine_of_visible blank, isBlank_append, isBlank_padding, blank, Bool.true_and]

theorem indentLine_indentLine (first second : Nat) (line : Text) :
    indentLine second (indentLine first line) = indentLine (first + second) line := by
  have kept := isBlank_indentLine first line
  cases blank : isBlank line with
  | true => rw [indentLine_of_blank blank, indentLine_of_blank blank, indentLine_of_blank blank]
  | false =>
      rw [blank] at kept
      rw [indentLine_of_visible kept, indentLine_of_visible blank, indentLine_of_visible blank,
        ← List.append_assoc, padding_add, Nat.add_comm]

/-- Only the spaces of a padding come in front of a line. -/
theorem exists_indentLine_eq (level : Nat) (line : Text) :
    ∃ amount, indentLine level line = padding amount ++ line := by
  cases blank : isBlank line with
  | true => exact ⟨0, indentLine_of_blank blank level⟩
  | false => exact ⟨level, indentLine_of_visible blank level⟩

theorem head?_padding_append_ne {text : Text} (amount : Nat) (other : text.head? ≠ some '\n') :
    (padding amount ++ text).head? ≠ some '\n' := by
  cases amount with
  | zero => exact other
  | succ amount => simp [padding, Nat.mul_succ, List.replicate_succ]

/-- Indentation never puts a line feed behind a carriage return. -/
theorem AreLines.head?_indented {parts : List Text} (split : AreLines parts) (level : Nat)
    (other : parts.flatten.head? ≠ some '\n') :
    (parts.map (indentLine level)).flatten.head? ≠ some '\n' := by
  cases parts with
  | nil => simp
  | cons line more =>
      have filled := split.line_ne_nil
      obtain ⟨amount, padded⟩ := exists_indentLine_eq level line
      rw [List.flatten_cons, List.head?_append_of_ne_nil _ filled] at other
      rw [List.map_cons, List.flatten_cons, padded, List.append_assoc]
      refine head?_padding_append_ne amount ?_
      rwa [List.head?_append_of_ne_nil _ filled]

theorem AreLines.map_indentLine {parts : List Text} (split : AreLines parts) (level : Nat) :
    AreLines (parts.map (indentLine level)) := by
  induction split with
  | none => exact .none
  | @unclosed content filled inner =>
      obtain ⟨amount, padded⟩ := exists_indentLine_eq level content
      rw [List.map_singleton, padded]
      exact (AreLines.unclosed filled inner).prepend isLineEnd_of_mem_padding
  | @closed content ending more inner ends apart later ih =>
      obtain ⟨amount, padded⟩ := exists_indentLine_eq level (content ++ ending)
      rw [List.map_cons, padded]
      have unpaired (carriage : ending = ['\r']) := later.head?_indented level (apart carriage)
      exact (AreLines.closed inner ends unpaired ih).prepend isLineEnd_of_mem_padding

theorem lines_indent (level : Nat) (code : Text) :
    lines (indent level code) = (lines code).map (indentLine level) :=
  lines_eq_iff.mpr ⟨(areLines_lines code).map_indentLine level, List.flatMap_def.symm⟩

end Padding

/-- What closes a line stands from its first line end on. -/
def lineEnding (line : Text) : Text :=
  line.dropWhile (!isLineEnd ·)

theorem lineEnding_indentLine (level : Nat) (line : Text) :
    lineEnding (indentLine level line) = lineEnding line := by
  obtain ⟨amount, padded⟩ := exists_indentLine_eq level line
  rw [padded]
  exact List.dropWhile_append_of_pos fun char member => by
    rw [isLineEnd_of_mem_padding char member, Bool.not_false]

/-- Takes the padding away again, which must be there unless the line is blank. -/
def outdentLine? (level : Nat) (line : Text) : Option Text :=
  if isBlank line then some line else (padding level).isPrefixOf? line

def outdent? (level : Nat) (code : Text) : Option Text :=
  ((lines code).mapM (outdentLine? level)).map List.flatten

theorem outdentLine?_indentLine (level : Nat) (line : Text) :
    outdentLine? level (indentLine level line) = some line := by
  have kept := isBlank_indentLine level line
  unfold outdentLine?
  cases blank : isBlank line with
  | true => rw [indentLine_of_blank blank, if_pos blank]
  | false =>
      rw [kept, blank, if_neg Bool.false_ne_true, indentLine_of_visible blank]
      exact List.isPrefixOf?_eq_some_iff_append_eq.mpr rfl

theorem outdent?_indent (level : Nat) (code : Text) :
    outdent? level (indent level code) = some code := by
  have undone (parts : List Text) :
      (parts.map (indentLine level)).mapM (outdentLine? level) = some parts := by
    induction parts with
    | nil => rfl
    | cons line more ih =>
        rw [List.map_cons, List.mapM_cons, outdentLine?_indentLine, ih]
        rfl
  rw [outdent?, lines_indent, undone, Option.map_some, lines_flatten]

theorem indent_indent (first second : Nat) (code : Text) :
    indent second (indent first code) = indent (first + second) code := by
  rw [indent, lines_indent, List.flatMap_map]
  exact List.flatMap_congr fun line _ => indentLine_indentLine first second line

theorem indent_append (level : Nat) {first : Text} (feed : first.getLast? = some '\n')
    (second : Text) : indent level (first ++ second) = indent level first ++ indent level second := by
  rw [indent, lines_append_of_newline feed, List.flatMap_append, indent, indent]

theorem levelFault?_eq_none_iff {level : Int} :
    levelFault? level = none ↔ -countLimit ≤ level ∧ 4 * level < memoryLimit := by
  unfold levelFault? countLimit memoryLimit
  split_ifs
  all_goals
    simp only [false_iff, true_iff]
    omega

/-- Where the levels have a padding together, each of them has one. -/
theorem levelFault?_eq_none_of_add {first second : Nat}
    (room : levelFault? (first + second) = none) :
    levelFault? first = none ∧ levelFault? second = none := by
  simp only [levelFault?_eq_none_iff, countLimit, memoryLimit] at *
  omega

theorem indentBy_eq_ok {level : Nat} (room : levelFault? level = none) (code : Text) :
    indentBy level code = .ok (indent level code) := by
  rw [indentBy, room, Int.toNat_natCast]

theorem indentBy_indentBy {first second : Nat} (room : levelFault? (first + second) = none)
    (code : Text) : (indentBy first code >>= indentBy second) = indentBy (first + second) code := by
  obtain ⟨firstRoom, secondRoom⟩ := levelFault?_eq_none_of_add room
  rw [← Int.natCast_add] at room ⊢
  rw [indentBy_eq_ok firstRoom, indentBy_eq_ok room, ← indent_indent]
  exact indentBy_eq_ok secondRoom _

/-- Levels add up. Indentation keeps the number of lines and what closes each of them, and without
the padding of the lines that are not blank the text is what it was before. Behind a line feed it
starts again. Two levels that have a padding together can be given one after the other. -/
theorem indent_exact (code more : Text) (first second : Nat) :
    indent second (indent first code) = indent (first + second) code ∧
      (lines (indent first code)).length = (lines code).length ∧
      (lines (indent first code)).map lineEnding = (lines code).map lineEnding ∧
      outdent? first (indent first code) = some code ∧
      (code.getLast? = some '\n' →
        indent first (code ++ more) = indent first code ++ indent first more) ∧
      (levelFault? (first + second) = none →
        (indentBy first code >>= indentBy second) = indentBy (first + second) code) := by
  refine ⟨indent_indent first second code, ?_, ?_, outdent?_indent first code,
    fun feed => indent_append first feed more, fun room => indentBy_indentBy room code⟩
  · rw [lines_indent, List.length_map]
  · rw [lines_indent, List.map_map]
    exact List.map_congr_left fun line _ => lineEnding_indentLine first line

/-- Line ends of one and of two characters, and a blank line that does not end in a line feed. -/
theorem indent_exact_mixed :
    let code : Text := "a\r\n\u3000\r\x1fb\u2028\n"
    let more : Text := "\u2029c"
    code.getLast? = some '\n' ∧ levelFault? (1 + 2) = none ∧
      indent 2 (indent 1 code) = indent 3 code ∧
      (lines (indent 1 code)).map lineEnding = ["\r\n", "\r", "\u2028", "\n"] ∧
      indent 1 (code ++ more) = "    a\r\n\u3000\r    \x1fb\u2028\n\u2029    c".toList ∧
      (indentBy 1 code >>= indentBy 2) = indentBy 3 code := by
  intro code more
  have feed : code.getLast? = some '\n' := by decide
  have room : levelFault? (1 + 2) = none := by decide
  obtain ⟨added, -, endings, -, again, bounded⟩ := indent_exact code more 1 2
  exact ⟨feed, room, added, endings.trans (by decide), (again feed).trans (by decide), bounded room⟩

end WidgetBindings.Text
