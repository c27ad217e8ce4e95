import WidgetBindings.Text.Uppercase

namespace WidgetBindings.Text

/-! The first code point of an uppercase is its own uppercase.

The code points that have another uppercase and those that such an uppercase starts with are two
sets of many hundreds. Each is written as the bits of one number, and one operation on the two
numbers shows that the sets have nothing in common.
-/

/-- The number with a bit for each of the codes. -/
def bits : List Nat → Nat
  | [] => 0
  | code :: rest => 1 <<< code ||| bits rest

theorem testBit_bits_iff {codes : List Nat} {code : Nat} :
    (bits codes).testBit code = true ↔ code ∈ codes := by
  induction codes with
  | nil => simp [bits]
  | cons first rest ih =>
      have own : (1 <<< first).testBit code = true ↔ code = first := by
        rw [Nat.one_shiftLeft, Nat.testBit_two_pow, decide_eq_true_iff, eq_comm]
      rw [bits, Nat.testBit_or, Bool.or_eq_true, own, ih, List.mem_cons]

theorem notMem_of_bits {first second : List Nat} {code : Nat}
    (apart : bits first &&& bits second = 0) (listed : code ∈ second) : code ∉ first := by
  intro member
  have both : (bits first &&& bits second).testBit code = true := by
    rw [Nat.testBit_and, testBit_bits_iff.mpr member, testBit_bits_iff.mpr listed, Bool.and_self]
  simp [apart] at both

namespace CaseRun

variable {run : CaseRun} {code : Nat}

/-- How far the code points of a run lie behind its first one. -/
def distances (run : CaseRun) : List Nat :=
  (List.range ((run.last - run.first) / run.step + 1)).map (· * run.step)

theorem exists_distance (within : run.contains code = true) :
    ∃ distance ∈ run.distances,
      code = run.first + distance ∧ run.image code = run.start + distance := by
  simp only [contains, Bool.and_eq_true, decide_eq_true_eq, beq_iff_eq] at within
  obtain ⟨⟨lower, upper⟩, stepped⟩ := within
  have bounded : (code - run.first) / run.step ≤ (run.last - run.first) / run.step :=
    Nat.div_le_div_right (by omega)
  have whole : (code - run.first) / run.step * run.step = code - run.first :=
    Nat.div_mul_cancel (Nat.dvd_of_mod_eq_zero stepped)
  have listed : code - run.first ∈ run.distances :=
    List.mem_map.mpr ⟨_, List.mem_range.mpr (Nat.lt_succ_of_le bounded), whole⟩
  exact ⟨code - run.first, listed, by omega, rfl⟩

end CaseRun

/-- The code points in the two tables. -/
def raisable : List Nat :=
  expansions.map Prod.fst ++
    uppercaseRuns.flatMap fun run => run.distances.map (run.first + ·)

/-- What the uppercases in the two tables start with. -/
def initials : List Nat :=
  expansions.filterMap (·.2.head?) ++
    uppercaseRuns.flatMap fun run => run.distances.map (run.start + ·)

theorem initials_apart : bits raisable &&& bits initials = 0 := by
  decide +kernel

theorem expansions_nonempty : ∀ entry ∈ expansions, entry.2 ≠ [] := by
  decide

theorem toNat_ofNat_initials : ∀ code ∈ initials, (Char.ofNat code).toNat = code := by
  decide +kernel

theorem underscore_notMem_tables :
    (∀ entry ∈ expansions, '_' ∉ entry.2.map Char.ofNat) ∧ '_' ∉ initials.map Char.ofNat := by
  decide +kernel

theorem mem_raisable_of_contains {run : CaseRun} {code : Nat} (listed : run ∈ uppercaseRuns)
    (within : run.contains code = true) : code ∈ raisable := by
  obtain ⟨distance, inside, position, -⟩ := CaseRun.exists_distance within
  refine List.mem_append_right _ (List.mem_flatMap.mpr ⟨run, listed, ?_⟩)
  exact List.mem_map.mpr ⟨distance, inside, position.symm⟩

theorem image_mem_initials {run : CaseRun} {code : Nat} (listed : run ∈ uppercaseRuns)
    (within : run.contains code = true) : run.image code ∈ initials := by
  obtain ⟨distance, inside, -, image⟩ := CaseRun.exists_distance within
  refine List.mem_append_right _ (List.mem_flatMap.mpr ⟨run, listed, ?_⟩)
  exact List.mem_map.mpr ⟨distance, inside, image.symm⟩

theorem uppercaseCodes_of_notMem {code : Nat} (outside : code ∉ raisable) :
    uppercaseCodes code = [code] := by
  have unexpanded : expansions.lookup code = none := by
    rw [List.lookup_eq_none_iff]
    intro entry listed
    refine bne_iff_ne.mpr fun same => outside ?_
    exact same ▸ List.mem_append_left _ (List.mem_map_of_mem listed)
  have unmoved : uppercaseRuns.find? (·.contains code) = none := by
    rw [List.find?_eq_none]
    exact fun run listed within => outside (mem_raisable_of_contains listed within)
  simp only [uppercaseCodes, unexpanded, unmoved]

theorem uppercase_of_notMem {char : Char} (outside : char.toNat ∉ raisable) :
    uppercase char = [char] := by
  rw [uppercase, uppercaseCodes_of_notMem outside, List.map_singleton, Char.ofNat_toNat]

theorem uppercase_of_mem_initials {code : Nat} (initial : code ∈ initials) :
    uppercase (Char.ofNat code) = [Char.ofNat code] := by
  refine uppercase_of_notMem ?_
  rw [toNat_ofNat_initials code initial]
  exact notMem_of_bits initials_apart initial

/-- An uppercase is written in one of the tables, or it is the code point itself. -/
theorem uppercase_cases (char : Char) :
    (∃ entry ∈ expansions, uppercase char = entry.2.map Char.ofNat) ∨
      (∃ initial ∈ initials, uppercase char = [Char.ofNat initial]) ∨ uppercase char = [char] := by
  cases expanded : expansions.lookup char.toNat with
  | some codes =>
      obtain ⟨front, back, split, -⟩ := List.lookup_eq_some_iff.mp expanded
      refine .inl ⟨(char.toNat, codes), by simp [split], ?_⟩
      simp only [uppercase, uppercaseCodes, expanded]
  | none =>
      cases moved : uppercaseRuns.find? (·.contains char.toNat) with
      | none =>
          refine .inr (.inr ?_)
          simp only [uppercase, uppercaseCodes, expanded, moved, List.map_singleton,
            Char.ofNat_toNat]
      | some run =>
          have listed := List.mem_of_find?_eq_some moved
          obtain ⟨within, -⟩ := List.find?_eq_some_iff_append.mp moved
          refine .inr (.inl ⟨run.image char.toNat, image_mem_initials listed within, ?_⟩)
          simp only [uppercase, uppercaseCodes, expanded, moved, List.map_singleton]

/-- Also where an uppercase has several code points, the first of them is its own uppercase. -/
theorem exists_uppercase_eq (char : Char) :
    ∃ first rest, uppercase char = first :: rest ∧ uppercase first = [first] := by
  rcases uppercase_cases char with ⟨entry, listed, image⟩ | ⟨initial, member, image⟩ | kept
  · obtain ⟨first, rest, codes⟩ := List.exists_cons_of_ne_nil (expansions_nonempty entry listed)
    have initial : first ∈ initials :=
      List.mem_append_left _ (List.mem_filterMap.mpr ⟨entry, listed, by rw [codes, List.head?_cons]⟩)
    rw [codes, List.map_cons] at image
    exact ⟨_, _, image, uppercase_of_mem_initials initial⟩
  · exact ⟨_, [], image, uppercase_of_mem_initials member⟩
  · exact ⟨char, [], kept, kept⟩

theorem eq_underscore_of_mem_uppercase {char : Char} (member : '_' ∈ uppercase char) :
    char = '_' := by
  rcases uppercase_cases char with ⟨entry, listed, image⟩ | ⟨initial, listed, image⟩ | kept
  · exact absurd (image ▸ member) (underscore_notMem_tables.1 entry listed)
  · rw [image, List.mem_singleton] at member
    exact absurd (member ▸ List.mem_map_of_mem listed) underscore_notMem_tables.2
  · rw [kept, List.mem_singleton] at member
    exact member.symm

section Ascii

theorem uppercase_of_isLower : ∀ code < 128, (Char.ofNat code).isLower = true →
    uppercase (Char.ofNat code) = [(Char.ofNat code).toUpper] := by
  decide +kernel

/-- The bits of the tables are made once, where a search would go through the tables for each code. -/
theorem isLower_of_testBit : ∀ code < 128, (bits raisable).testBit code = true →
    (Char.ofNat code).isLower = true := by
  decide +kernel

theorem toUpper_of_not_isLower : ∀ code < 128, (Char.ofNat code).isLower = false →
    (Char.ofNat code).toNat = code ∧ (Char.ofNat code).toUpper = Char.ofNat code := by
  decide

/-- In ASCII the tables of Unicode only raise letters. -/
theorem uppercase_ascii :
    ∀ code < 128, uppercase (Char.ofNat code) = [(Char.ofNat code).toUpper] := by
  intro code below
  cases lower : (Char.ofNat code).isLower with
  | true => exact uppercase_of_isLower code below lower
  | false =>
      obtain ⟨number, kept⟩ := toUpper_of_not_isLower code below lower
      rw [kept]
      refine uppercase_of_notMem fun listed => ?_
      rw [number] at listed
      have raised := isLower_of_testBit code below (testBit_bits_iff.mpr listed)
      exact Bool.false_ne_true (lower.symm.trans raised)

end Ascii

end WidgetBindings.Text
