import WidgetBindings.Name
import WidgetBindings.Proofs.Uppercase

namespace WidgetBindings

/-! Identifiers of C, and the words of generated code that come from them.

A word may hold the mark of a raw identifier besides the characters of identifiers. Every name that
the generator derives from identifiers is a word, so no name can imitate the punctuation around it.
-/

/-- A character below a bound can be checked code by code. -/
@[elab_as_elim]
theorem Text.charCases {motive : Char → Prop} {bound : Nat} (char : Char)
    (below : char.toNat < bound) (codes : ∀ code < bound, motive (Char.ofNat code)) :
    motive char := by
  simpa only [Char.ofNat_toNat] using codes char.toNat below

namespace Name

def isIdentifierStart (char : Char) : Bool :=
  char.isAlpha || char == '_'

def isIdentifierChar (char : Char) : Bool :=
  char.isAlphanum || char == '_'

/-- A letter or an underscore, and then letters, digits and underscores. -/
def isIdentifier : Text → Bool
  | [] => false
  | first :: rest => isIdentifierStart first && rest.all isIdentifierChar

def isWordChar (char : Char) : Bool :=
  isIdentifierChar char || char == '#'

def IsWord (text : Text) : Prop :=
  ∀ char ∈ text, isWordChar char = true

instance (text : Text) : Decidable (IsWord text) :=
  decidable_of_iff (text.all isWordChar = true) List.all_eq_true

theorem isIdentifierChar_of_start {char : Char} (start : isIdentifierStart char = true) :
    isIdentifierChar char = true := by
  simp only [isIdentifierStart, isIdentifierChar, Char.isAlphanum, Bool.or_eq_true] at start ⊢
  exact start.imp_left .inl

theorem isIdentifierChar_of_mem {name : Text} (identifier : isIdentifier name = true) :
    ∀ char ∈ name, isIdentifierChar char = true := by
  cases name with
  | nil => simp
  | cons first rest =>
      simp only [isIdentifier, Bool.and_eq_true, List.all_eq_true] at identifier
      intro char member
      rcases List.mem_cons.mp member with rfl | member
      · exact isIdentifierChar_of_start identifier.1
      · exact identifier.2 char member

/-- The mark of a raw identifier is no part of an identifier. -/
theorem mark_notMem {name : Text} (identifier : isIdentifier name = true) : '#' ∉ name := by
  intro member
  exact absurd (isIdentifierChar_of_mem identifier '#' member) (by decide)

theorem isWord_of_forall_mem {name : Text}
    (characters : ∀ char ∈ name, isIdentifierChar char = true) : IsWord name := by
  intro char member
  simp [isWordChar, characters char member]

theorem isWord_of_isIdentifier {name : Text} (identifier : isIdentifier name = true) :
    IsWord name :=
  isWord_of_forall_mem (isIdentifierChar_of_mem identifier)

theorem IsWord.notMem {text : Text} {char : Char} (word : IsWord text)
    (other : isWordChar char = false) : char ∉ text := by
  intro member
  simp [word char member] at other

/-- A text of word characters and some marks holds no other mark. -/
theorem notMem_of_all {text marks : Text} {char : Char}
    (known : text.all fun inside => isWordChar inside || marks.contains inside)
    (foreign : isWordChar char = false) (outside : char ∉ marks) : char ∉ text := by
  intro member
  have listed := List.all_eq_true.mp known char member
  rw [foreign, Bool.false_or, List.contains_iff_mem] at listed
  exact outside listed

theorem IsWord.of_subset {text part : Text} (word : IsWord text) (within : part ⊆ text) :
    IsWord part :=
  fun char member => word char (within member)

theorem IsWord.append {left right : Text} (leftWord : IsWord left) (rightWord : IsWord right) :
    IsWord (left ++ right) := by
  intro char member
  rcases List.mem_append.mp member with member | member
  · exact leftWord char member
  · exact rightWord char member

theorem IsWord.escape {name : Text} (word : IsWord name) : IsWord (escape name) := by
  unfold Name.escape
  split
  · exact word.append (by decide)
  · split
    · exact IsWord.append (by decide) word
    · exact word

theorem lt_of_isWordChar {char : Char} (word : isWordChar char = true) : char.toNat < 128 := by
  simp only [isWordChar, isIdentifierChar, Bool.or_eq_true, beq_iff_eq] at word
  rcases word with (alphanum | rfl) | rfl
  · change ((decide ('A'.val ≤ char.val ∧ char.val ≤ 'Z'.val) ||
      decide ('a'.val ≤ char.val) && decide (char.val ≤ 'z'.val)) ||
      decide ('0'.val ≤ char.val) && decide (char.val ≤ '9'.val)) = true at alphanum
    simp only [Bool.or_eq_true, Bool.and_eq_true, decide_eq_true_eq,
      UInt32.le_iff_toNat_le] at alphanum
    change ((65 ≤ char.toNat ∧ char.toNat ≤ 90) ∨ (97 ≤ char.toNat ∧ char.toNat ≤ 122)) ∨
      (48 ≤ char.toNat ∧ char.toNat ≤ 57) at alphanum
    omega
  · decide
  · decide

theorem uppercase_of_isWordChar {char : Char} (word : isWordChar char = true) :
    Text.uppercase char = [char.toUpper] :=
  Text.charCases char (lt_of_isWordChar word) Text.uppercase_ascii

theorem isWordChar_toUpper {char : Char} (word : isWordChar char = true) :
    isWordChar char.toUpper = true := by
  have below := lt_of_isWordChar word
  revert word
  exact Text.charCases char below (by decide)

theorem isWord_uppercase {char : Char} (word : isWordChar char = true) :
    IsWord (Text.uppercase char) := by
  intro upper member
  rw [uppercase_of_isWordChar word, List.mem_singleton] at member
  rw [member]
  exact isWordChar_toUpper word

theorem subset_of_mem_splitOn {sep : Char} {text part : Text} (member : part ∈ text.splitOn sep) :
    part ⊆ text := by
  have whole : [sep].intercalate (text.splitOn sep) = text := List.intercalate_splitOn sep
  rw [← whole]
  generalize text.splitOn sep = parts at member ⊢
  induction parts with
  | nil => cases member
  | cons first rest ih =>
      rcases List.mem_cons.mp member with rfl | later
      · cases rest <;> simp
      · rw [List.intercalate_cons_of_ne_nil (List.ne_nil_of_mem later)]
        exact fun char charMember => List.mem_append_right _ (ih later charMember)

theorem notMem_of_mem_splitOn {sep : Char} {text part : Text} (member : part ∈ text.splitOn sep) :
    sep ∉ part := by
  induction text generalizing part with
  | nil => simp_all
  | cons char rest ih =>
      rw [List.splitOn_cons_eq_if_modifyHead] at member
      split at member
      · rcases List.mem_cons.mp member with rfl | later
        · exact List.not_mem_nil
        · exact ih later
      · rename_i other
        obtain ⟨first, more, parts⟩ := List.exists_cons_of_ne_nil (List.splitOn_ne_nil sep rest)
        rw [parts, List.modifyHead_cons] at member
        rcases List.mem_cons.mp member with rfl | later
        · have inner : sep ∉ first := ih (parts ▸ List.mem_cons_self)
          exact List.not_mem_cons_of_ne_of_not_mem (fun same => other (by simp [same])) inner
        · exact ih (parts ▸ List.mem_cons_of_mem _ later)

theorem IsWord.pascal {name : Text} (word : IsWord name) : IsWord (pascal name) := by
  intro char member
  obtain ⟨part, listed, inside⟩ := List.mem_flatMap.mp member
  have partWord := word.of_subset (subset_of_mem_splitOn listed)
  cases part with
  | nil => cases inside
  | cons first rest =>
      rcases List.mem_append.mp inside with upper | other
      · exact isWord_uppercase (partWord first List.mem_cons_self) char upper
      · exact partWord char (List.mem_cons_of_mem _ other)

/-! What is lost when names are escaped.

The mark of a raw identifier shows that a name was escaped, because no C identifier has it. An
underscore behind a word does not show where it comes from: the words that cannot be raw take the
names of other identifiers.
-/

/-- A word that cannot be raw is escaped to the other name. -/
def TakesName (word name : Text) : Prop :=
  word ∈ notRaw ∧ name = word ++ "_"

instance (word name : Text) : Decidable (TakesName word name) :=
  inferInstanceAs (Decidable (_ ∧ _))

section Escape

variable {name first second : Text}

/-- The three rules of escaping. -/
theorem escape_cases (name : Text) :
    (name ∈ notRaw ∧ escape name = name ++ "_") ∨
      (name ∈ keywords ∧ name ∉ notRaw ∧ escape name = "r#" ++ name) ∨
      (name ∉ keywords ∧ escape name = name) := by
  unfold escape
  by_cases suffixed : name ∈ notRaw
  · exact .inl ⟨suffixed, if_pos suffixed⟩
  · by_cases reserved : name ∈ keywords
    · exact .inr (.inl ⟨reserved, suffixed, by rw [if_neg suffixed, if_pos reserved]⟩)
    · exact .inr (.inr ⟨reserved, by rw [if_neg suffixed, if_neg reserved]⟩)

theorem raw_ne {word : Text} (plain : '#' ∉ name) : "r#" ++ word ≠ name := by
  intro same
  exact plain (same ▸ List.mem_append_left _ (by decide))

theorem escape_eq_of_takesName (takes : TakesName first second) : escape first = escape second := by
  have kept : ∀ word ∈ notRaw, escape (word ++ "_") = escape word := by decide
  obtain ⟨member, rfl⟩ := takes
  exact (kept first member).symm

theorem escape_eq_iff (firstPlain : '#' ∉ first) (secondPlain : '#' ∉ second) :
    escape first = escape second ↔
      first = second ∨ TakesName first second ∨ TakesName second first := by
  have firstMarked : '#' ∉ first ++ ("_" : Text) := List.not_mem_append firstPlain (by decide)
  have secondMarked : '#' ∉ second ++ ("_" : Text) := List.not_mem_append secondPlain (by decide)
  refine Iff.intro (fun same => ?_) ?_
  · rcases escape_cases first with ⟨word, shape⟩ | ⟨_, _, shape⟩ | ⟨_, shape⟩ <;>
    rcases escape_cases second with ⟨otherWord, otherShape⟩ | ⟨_, _, otherShape⟩ | ⟨_, otherShape⟩ <;>
    rw [shape, otherShape] at same
    · exact .inl (List.append_cancel_right same)
    · exact absurd same.symm (raw_ne firstMarked)
    · exact .inr (.inl ⟨word, same.symm⟩)
    · exact absurd same (raw_ne secondMarked)
    · exact .inl (List.append_cancel_left same)
    · exact absurd same (raw_ne secondPlain)
    · exact .inr (.inr ⟨otherWord, same⟩)
    · exact absurd same.symm (raw_ne firstPlain)
    · exact .inl same
  · intro shared
    rcases shared with rfl | takes | takes
    · rfl
    · exact escape_eq_of_takesName takes
    · exact (escape_eq_of_takesName takes).symm

end Escape

end Name

end WidgetBindings
