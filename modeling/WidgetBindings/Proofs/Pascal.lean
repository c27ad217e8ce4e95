import WidgetBindings.Proofs.Identifier

namespace WidgetBindings.Name

/-! Pascal case of names.

A name is raised word by word, and its underscores vanish. In a name without an underscore only the
first letter is raised, and what it was before is lost: two such names have one type name exactly
when they differ at most in the case of that letter.
-/

variable {name first second : Text}

theorem pascal_of_plain (plain : '_' ∉ name) : pascal name = capitalize name := by
  rw [pascal, List.splitOn_eq_singleton plain, List.flatMap_singleton]

theorem pascal_append (first second : Text) :
    pascal (first ++ '_' :: second) = pascal first ++ pascal second := by
  rw [pascal, List.splitOn_append_cons_self, List.flatMap_append, pascal, pascal]

theorem underscore_notMem_capitalize {word : Text} (plain : '_' ∉ word) :
    '_' ∉ capitalize word := by
  cases word with
  | nil => exact plain
  | cons char rest =>
      obtain ⟨first, others⟩ := List.ne_and_not_mem_of_not_mem_cons plain
      refine List.not_mem_append (fun raised => ?_) others
      exact first (Text.eq_underscore_of_mem_uppercase raised).symm

theorem underscore_notMem_pascal (name : Text) : '_' ∉ pascal name := by
  intro member
  obtain ⟨word, listed, inside⟩ := List.mem_flatMap.mp member
  exact underscore_notMem_capitalize (notMem_of_mem_splitOn listed) inside

/-- To raise the first code point again changes nothing. -/
def IsRaised (text : Text) : Prop :=
  ∀ char ∈ text.head?, Text.uppercase char = [char]

theorem capitalize_of_isRaised {text : Text} (raised : IsRaised text) : capitalize text = text := by
  cases text with
  | nil => rfl
  | cons char rest => rw [capitalize, raised char rfl, List.singleton_append]

theorem isRaised_capitalize (word : Text) : IsRaised (capitalize word) := by
  cases word with
  | nil => simp [IsRaised, capitalize]
  | cons char rest =>
      obtain ⟨first, others, image, kept⟩ := Text.exists_uppercase_eq char
      simpa [IsRaised, capitalize, image] using kept

theorem IsRaised.append (firstRaised : IsRaised first) (secondRaised : IsRaised second) :
    IsRaised (first ++ second) := by
  cases first with
  | nil => exact secondRaised
  | cons char rest => exact firstRaised

/-- Words that vanish leave the next one in front. -/
theorem isRaised_pascal (name : Text) : IsRaised (pascal name) := by
  unfold pascal
  induction name.splitOn '_' with
  | nil => simp [IsRaised]
  | cons word more ih => exact (isRaised_capitalize word).append ih

theorem pascal_pascal (name : Text) : pascal (pascal name) = pascal name := by
  rw [pascal_of_plain (underscore_notMem_pascal name), capitalize_of_isRaised (isRaised_pascal name)]

/-- Words are raised one by one and joined without the underscores between them. What comes out has
no word left to raise, also where one code point was raised to several. -/
theorem pascal_exact (first second name : Text) :
    pascal (first ++ '_' :: second) = pascal first ++ pascal second ∧
      '_' ∉ pascal name ∧
      pascal (pascal name) = pascal name ∧
      ('_' ∉ name → pascal name = capitalize name) :=
  ⟨pascal_append first second, underscore_notMem_pascal name, pascal_pascal name, pascal_of_plain⟩

/-- The uppercase of U+0149 is a mark and a letter, and the mark has no uppercase of its own. -/
theorem pascal_exact_expanded :
    let name : Text := "\u0149ord"
    '_' ∉ name ∧ pascal name = ("\u02bcNord" : Text) ∧ pascal (pascal name) = pascal name ∧
      pascal ("_drop__" ++ '_' :: name) = ("Drop\u02bcNord" : Text) := by
  intro name
  have plain : '_' ∉ name := by decide
  obtain ⟨joined, -, again, raised⟩ := pascal_exact "_drop__" name name
  have whole : pascal name = ("\u02bcNord" : Text) := (raised plain).trans (by decide)
  exact ⟨plain, whole, again, by rw [joined, whole]; decide⟩

/-- The names differ at most in the case of the first letter. -/
def AgreeUpToInitial (first second : Text) : Prop :=
  first.head?.map Char.toUpper = second.head?.map Char.toUpper ∧ first.tail = second.tail

instance (first second : Text) : Decidable (AgreeUpToInitial first second) :=
  inferInstanceAs (Decidable (_ ∧ _))

theorem pascal_eq_modifyHead (word : IsWord name) (plain : '_' ∉ name) :
    pascal name = name.modifyHead Char.toUpper := by
  rw [pascal_of_plain plain]
  cases name with
  | nil => rfl
  | cons char rest =>
      simp [capitalize, uppercase_of_isWordChar (word char List.mem_cons_self)]

theorem modifyHead_eq_iff {change : Char → Char} :
    first.modifyHead change = second.modifyHead change ↔
      first.head?.map change = second.head?.map change ∧ first.tail = second.tail := by
  cases first <;> cases second <;> simp

theorem pascal_eq_iff (firstWord : IsWord first) (firstPlain : '_' ∉ first)
    (secondWord : IsWord second) (secondPlain : '_' ∉ second) :
    pascal first = pascal second ↔ AgreeUpToInitial first second := by
  rw [pascal_eq_modifyHead firstWord firstPlain, pascal_eq_modifyHead secondWord secondPlain,
    modifyHead_eq_iff, AgreeUpToInitial]

/-- A letter is raised from itself or from its small form. -/
theorem eq_or_eq_toLower_toUpper {char : Char} (word : isWordChar char = true) :
    char = char.toUpper ∨ char = char.toUpper.toLower :=
  Text.charCases char (lt_of_isWordChar word) (by decide)

/-- A name that is already in Pascal case is reached from itself and from its small form only. -/
theorem pascal_eq_cons_iff {upper : Char} {rest : Text} (word : IsWord name) (plain : '_' ∉ name)
    (raised : upper.toUpper = upper) (lowered : upper.toLower.toUpper = upper) :
    pascal name = upper :: rest ↔ name = upper :: rest ∨ name = upper.toLower :: rest := by
  rw [pascal_eq_modifyHead word plain]
  cases name with
  | nil => simp
  | cons char others =>
      simp only [List.modifyHead_cons, List.cons.injEq]
      refine Iff.intro ?_ ?_
      · intro ⟨initial, same⟩
        have origin := eq_or_eq_toLower_toUpper (word char List.mem_cons_self)
        rw [initial] at origin
        exact origin.imp (fun upper => ⟨upper, same⟩) (fun lower => ⟨lower, same⟩)
      · intro origin
        rcases origin with ⟨rfl, same⟩ | ⟨rfl, same⟩
        · exact ⟨raised, same⟩
        · exact ⟨lowered, same⟩

end WidgetBindings.Name
