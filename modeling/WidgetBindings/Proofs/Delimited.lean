import Mathlib.Data.List.Basic
import WidgetBindings.Text.Basic

namespace WidgetBindings

/-! Lists that can be cut into their parts again.

A delimiter that no part holds shows where a part ends. Text is cut into lines at its line feeds,
and lines are cut into blocks at the lines that close a block.
-/

section Delimiters

variable {α : Type} {delimiter closing sep : α}

/-- What stands before the first delimiter is known from the whole list, and so is the rest. -/
theorem eq_of_append_delimiter {first second firstRest secondRest : List α}
    (firstFree : delimiter ∉ first) (secondFree : delimiter ∉ second)
    (same : first ++ delimiter :: firstRest = second ++ delimiter :: secondRest) :
    first = second ∧ firstRest = secondRest := by
  induction first generalizing second with
  | nil =>
      cases second with
      | nil => exact ⟨rfl, (List.cons.inj same).2⟩
      | cons other second =>
          have head := (List.cons.inj same).1
          simp [head] at secondFree
  | cons head first ih =>
      cases second with
      | nil =>
          have head := (List.cons.inj same).1
          simp [head] at firstFree
      | cons other second =>
          obtain ⟨head, tail⟩ := List.cons.inj same
          obtain ⟨front, rest⟩ := ih (List.not_mem_of_not_mem_cons firstFree)
            (List.not_mem_of_not_mem_cons secondFree) tail
          exact ⟨head ▸ front ▸ rfl, rest⟩

theorem mem_intercalate {between : List α} {parts : List (List α)} {item : α}
    (member : item ∈ between.intercalate parts) :
    item ∈ between ∨ ∃ part ∈ parts, item ∈ part := by
  induction parts with
  | nil => cases member
  | cons first rest ih =>
      cases rest with
      | nil => exact .inr ⟨first, by simp, by simpa using member⟩
      | cons second rest =>
          rw [List.intercalate_cons_cons, List.mem_append, List.mem_append] at member
          rcases member with (inFirst | inBetween) | later
          · exact .inr ⟨first, by simp, inFirst⟩
          · exact .inl inBetween
          · exact (ih later).imp_right fun ⟨part, listed, inside⟩ =>
              ⟨part, List.mem_cons_of_mem _ listed, inside⟩

/-- The last item of a block is the only one of its kind. -/
def IsClosed (closing : α) (block : List α) : Prop :=
  ∃ front, block = front ++ [closing] ∧ closing ∉ front

variable {firstRest secondRest : List α}

theorem IsClosed.cut {first second : List α} (firstClosed : IsClosed closing first)
    (secondClosed : IsClosed closing second) (same : first ++ firstRest = second ++ secondRest) :
    first = second ∧ firstRest = secondRest := by
  obtain ⟨front, rfl, firstFree⟩ := firstClosed
  obtain ⟨other, rfl, secondFree⟩ := secondClosed
  simp only [List.append_assoc, List.singleton_append] at same
  obtain ⟨rfl, rest⟩ := eq_of_append_delimiter firstFree secondFree same
  exact ⟨rfl, rest⟩

theorem IsClosed.ne_nil {block : List α} (closed : IsClosed closing block) : block ≠ [] := by
  obtain ⟨front, rfl, -⟩ := closed
  exact List.append_ne_nil_of_right_ne_nil _ (List.cons_ne_nil _ _)

theorem IsClosed.map {β : Type} {change : α → β} (injective : Function.Injective change)
    {block : List α} (closed : IsClosed closing block) :
    IsClosed (change closing) (block.map change) := by
  obtain ⟨front, rfl, free⟩ := closed
  exact ⟨front.map change, List.map_append, mt (List.mem_map_of_injective injective).mp free⟩

/-- A closed block that cannot be taken for what comes behind the last one. -/
structure IsBlock (closing : α) (behind : Option α) (block : List α) : Prop where
  closed : IsClosed closing block
  apart : block.head? ≠ behind

theorem intercalate_cons_eq (block : List α) (more : List (List α)) :
    [sep].intercalate (block :: more) = block ++ more.flatMap (sep :: ·) := by
  induction more generalizing block with
  | nil => simp
  | cons next more ih => simp [List.intercalate_cons_cons, ih]

/-- A separator that is passed over leaves what is found in the blocks. -/
theorem filterMap_intercalate {β : Type} {find : α → Option β} (silent : find sep = none)
    (blocks : List (List α)) :
    ([sep].intercalate blocks).filterMap find = blocks.flatMap (·.filterMap find) := by
  cases blocks with
  | nil => rfl
  | cons block more =>
      rw [intercalate_cons_eq, List.filterMap_append, List.filterMap_flatMap, List.flatMap_cons]
      simp only [List.filterMap_cons_none silent]

theorem IsBlock.head?_intercalate {behind : Option α} {block : List α}
    (isBlock : IsBlock closing behind block) (more : List (List α)) (rest : List α) :
    ([sep].intercalate (block :: more) ++ rest).head? ≠ behind := by
  rw [intercalate_cons_eq, List.append_assoc,
    List.head?_append_of_ne_nil _ isBlock.closed.ne_nil]
  exact isBlock.apart

/-- The blocks behind the first one start with a separator each. -/
theorem flatMap_cons_inj {behind : Option α} {first second : List (List α)}
    (firstClosed : ∀ block ∈ first, IsClosed closing block)
    (secondClosed : ∀ block ∈ second, IsClosed closing block) (other : behind ≠ some sep)
    (firstEnds : firstRest.head? = behind) (secondEnds : secondRest.head? = behind)
    (same : first.flatMap (sep :: ·) ++ firstRest = second.flatMap (sep :: ·) ++ secondRest) :
    first = second ∧ firstRest = secondRest := by
  induction first generalizing second with
  | nil =>
      cases second with
      | nil => exact ⟨rfl, same⟩
      | cons block more =>
          rw [List.flatMap_nil, List.nil_append] at same
          exact absurd (firstEnds.symm.trans (congrArg List.head? same)) other
  | cons block more ih =>
      obtain ⟨closed, moreClosed⟩ := List.forall_mem_cons.mp firstClosed
      cases second with
      | nil =>
          rw [List.flatMap_nil, List.nil_append] at same
          exact absurd (secondEnds.symm.trans (congrArg List.head? same.symm)) other
      | cons otherBlock others =>
          obtain ⟨otherClosed, othersClosed⟩ := List.forall_mem_cons.mp secondClosed
          simp only [List.flatMap_cons, List.cons_append, List.append_assoc] at same
          obtain ⟨rfl, later⟩ := closed.cut otherClosed (List.cons.inj same).2
          obtain ⟨rfl, rest⟩ := ih moreClosed othersClosed later
          exact ⟨rfl, rest⟩

/-- Blocks with separators between them can be told apart, as long as no separator comes behind the
last one. -/
theorem intercalate_inj {behind : Option α} {first second : List (List α)}
    (firstBlocks : ∀ block ∈ first, IsBlock closing behind block)
    (secondBlocks : ∀ block ∈ second, IsBlock closing behind block) (other : behind ≠ some sep)
    (firstEnds : firstRest.head? = behind) (secondEnds : secondRest.head? = behind)
    (same : [sep].intercalate first ++ firstRest = [sep].intercalate second ++ secondRest) :
    first = second ∧ firstRest = secondRest := by
  cases first with
  | nil =>
      cases second with
      | nil => exact ⟨rfl, same⟩
      | cons block more =>
          have isBlock := secondBlocks block List.mem_cons_self
          exact absurd (congrArg List.head? same.symm ▸ firstEnds)
            (isBlock.head?_intercalate more secondRest)
  | cons block more =>
      cases second with
      | nil =>
          have isBlock := firstBlocks block List.mem_cons_self
          exact absurd (congrArg List.head? same ▸ secondEnds)
            (isBlock.head?_intercalate more firstRest)
      | cons otherBlock others =>
          obtain ⟨isBlock, moreBlocks⟩ := List.forall_mem_cons.mp firstBlocks
          obtain ⟨otherIsBlock, othersBlocks⟩ := List.forall_mem_cons.mp secondBlocks
          rw [intercalate_cons_eq, intercalate_cons_eq, List.append_assoc, List.append_assoc] at same
          obtain ⟨rfl, later⟩ := isBlock.closed.cut otherIsBlock.closed same
          obtain ⟨rfl, rest⟩ := flatMap_cons_inj (fun block listed => (moreBlocks block listed).closed)
            (fun block listed => (othersBlocks block listed).closed) other firstEnds secondEnds later
          exact ⟨rfl, rest⟩

end Delimiters

namespace Text

/-- Lines, each with a line feed behind it. -/
def ofLines (lines : List Text) : Text :=
  lines.flatMap (· ++ ("\n" : Text))

theorem ofLines_cons (line : Text) (more : List Text) :
    ofLines (line :: more) = line ++ '\n' :: ofLines more := by
  simp [ofLines]

theorem ofLines_append (first second : List Text) :
    ofLines (first ++ second) = ofLines first ++ ofLines second :=
  List.flatMap_append

theorem ofLines_inj {first second : List Text} (firstPlain : ∀ line ∈ first, '\n' ∉ line)
    (secondPlain : ∀ line ∈ second, '\n' ∉ line) (same : ofLines first = ofLines second) :
    first = second := by
  induction first generalizing second with
  | nil =>
      cases second with
      | nil => rfl
      | cons line more => simp [ofLines] at same
  | cons line more ih =>
      cases second with
      | nil => simp [ofLines] at same
      | cons other others =>
          obtain ⟨linePlain, morePlain⟩ := List.forall_mem_cons.mp firstPlain
          obtain ⟨otherPlain, othersPlain⟩ := List.forall_mem_cons.mp secondPlain
          rw [ofLines_cons, ofLines_cons] at same
          obtain ⟨rfl, later⟩ := eq_of_append_delimiter linePlain otherPlain same
          rw [ih morePlain othersPlain later]

/-- Cutting at the line feeds gives the lines, and the empty text behind the last of them. -/
theorem splitOn_ofLines {lines : List Text} (plain : ∀ line ∈ lines, '\n' ∉ line) :
    (ofLines lines).splitOn '\n' = lines ++ [[]] := by
  induction lines with
  | nil => rfl
  | cons line more ih =>
      obtain ⟨linePlain, morePlain⟩ := List.forall_mem_cons.mp plain
      rw [ofLines_cons, List.splitOn_append_cons_self_of_not_mem linePlain, ih morePlain,
        List.cons_append]

/-- Texts of whole lines with a line feed between them have an empty line between them. -/
theorem intercalate_ofLines (blocks : List (List Text)) :
    ("\n" : Text).intercalate (blocks.map ofLines) = ofLines ([([] : Text)].intercalate blocks) := by
  cases blocks with
  | nil => rfl
  | cons block more =>
      have newline : ("\n" : Text) = ['\n'] := rfl
      rw [newline, List.map_cons, intercalate_cons_eq, intercalate_cons_eq, ofLines_append,
        List.flatMap_map]
      unfold ofLines
      rw [List.flatMap_assoc]
      rfl

theorem newline_notMem_intercalate {blocks : List (List Text)}
    (plain : ∀ block ∈ blocks, ∀ line ∈ block, '\n' ∉ line) :
    ∀ line ∈ [([] : Text)].intercalate blocks, '\n' ∉ line := by
  intro line member
  rcases mem_intercalate member with inBetween | ⟨block, listed, inside⟩
  · rw [List.mem_singleton.mp inBetween]
    exact List.not_mem_nil
  · exact plain block listed line inside

end Text

end WidgetBindings
