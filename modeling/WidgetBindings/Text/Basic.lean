namespace WidgetBindings

/-! Text as a list of code points.

Length, order and slicing of names, types and generated code all go by code point, so the list is
both the representation and the model; string literals are read as texts where one is expected.
-/

abbrev Text := List Char

instance : Coe String Text := ⟨String.toList⟩

namespace Text

def ofNat (number : Nat) : Text :=
  Nat.toDigits 10 number

def ofInt : Int → Text
  | .ofNat number => ofNat number
  | .negSucc number => '-' :: ofNat (number + 1)

def utf8Length : Text → Nat
  | [] => 0
  | char :: rest => char.utf8Size + utf8Length rest

/-- Whether a part stands anywhere in a text. -/
def holds (part : Text) : Text → Bool
  | [] => part.isEmpty
  | char :: rest => part.isPrefixOf (char :: rest) || holds part rest

theorem holds_iff {part text : Text} : holds part text = true ↔ part <:+: text := by
  induction text with
  | nil => simp only [holds, List.isEmpty_iff, List.infix_nil]
  | cons char rest ih =>
      simp only [holds, Bool.or_eq_true, List.isPrefixOf_iff_prefix, ih, List.infix_cons_iff]

/-- Order by code points. A text comes behind its own front parts. -/
def atMost : Text → Text → Bool
  | [], _ => true
  | _ :: _, [] => false
  | first :: firstRest, second :: secondRest =>
      first.toNat < second.toNat || first == second && atMost firstRest secondRest

/-- Reads a numeral of ASCII digits. -/
def toNat? (text : Text) : Option Nat :=
  if text ≠ [] ∧ text.all Char.isDigit then
    some (text.foldl (fun number digit => 10 * number + (digit.toNat - '0'.toNat)) 0)
  else none

end Text

end WidgetBindings
