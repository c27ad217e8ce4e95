import WidgetBindings.CommandLine.Usage

namespace WidgetBindings.CommandLine

/-! How a single word of the command line reads, before its neighbours are looked at.

A long option may be cut short as long as only one option continues it, and takes a value behind an
equals sign. A short option is one letter; whatever stands behind the letter belongs to it. A
negative number is not taken for an option, nor is a word with a space that no option fits.
-/

/-- What stands in the same word as an option: nothing, the value of a long option, or what is
behind the letter of a short one. -/
inductive Attachment
  | none
  | value (text : Text)
  | tail (text : Text)
deriving DecidableEq, Repr

inductive Word
  | plain (text : Text)
  | option (opt : Opt) (attachment : Attachment)
  | unknown (text : Text)
  | terminator
deriving DecidableEq, Repr

/-- The digits zero of all scripts of Unicode 14. The other nine stand behind each of them. -/
def decimalZeros : List Nat :=
  [
    0x30, 0x660, 0x6f0, 0x7c0, 0x966, 0x9e6, 0xa66, 0xae6, 0xb66, 0xbe6, 0xc66, 0xce6, 0xd66,
    0xde6, 0xe50, 0xed0, 0xf20, 0x1040, 0x1090, 0x17e0, 0x1810, 0x1946, 0x19d0, 0x1a80, 0x1a90,
    0x1b50, 0x1bb0, 0x1c40, 0x1c50, 0xa620, 0xa8d0, 0xa900, 0xa9d0, 0xa9f0, 0xaa50, 0xabf0,
    0xff10, 0x104a0, 0x10d30, 0x11066, 0x110f0, 0x11136, 0x111d0, 0x112f0, 0x11450, 0x114d0,
    0x11650, 0x116c0, 0x11730, 0x118e0, 0x11950, 0x11c50, 0x11d50, 0x11da0, 0x16a60, 0x16ac0,
    0x16b50, 0x1d7ce, 0x1d7d8, 0x1d7e2, 0x1d7ec, 0x1d7f6, 0x1e140, 0x1e2f0, 0x1e950, 0x1fbf0
  ]

def isDecimalDigit (char : Char) : Bool :=
  decimalZeros.any fun start => start ≤ char.toNat && char.toNat < start + 10

def isNumeral (text : Text) : Bool :=
  match text.dropWhile isDecimalDigit with
  | [] => text ≠ []
  | '.' :: fraction => fraction ≠ [] && fraction.all isDecimalDigit
  | _ => false

/-- A line feed may close the number. -/
def isNegativeNumber : Text → Bool
  | '-' :: digits =>
      isNumeral digits || (digits.getLast? = some '\n' && isNumeral digits.dropLast)
  | _ => false

/-- The part before the first equals sign, and what is attached by it. -/
def splitValue (word : Text) : Text × Attachment :=
  match word.dropWhile (· != '=') with
  | [] => (word, .none)
  | _ :: value => (word.takeWhile (· != '='), .value value)

/-- The options that a long word may mean, by their full spellings. -/
def continuations (start : Text) : List (Text × Opt) :=
  spellings.filter fun (spelling, _) => start.isPrefixOf spelling

/-- One equals sign directly behind the letter is not part of what follows. -/
def attachmentBehind : Text → Attachment
  | [] => .none
  | '=' :: value => .tail value
  | tail => .tail tail

def Word.ofUnmatched (word : Text) : Word :=
  if isNegativeNumber word || word.contains ' ' then .plain word else .unknown word

def Word.ofLong (word : Text) : Except UsageError Word :=
  let (start, attachment) := splitValue word
  match spellings.lookup start, continuations start with
  | some opt, _ => .ok (.option opt attachment)
  | none, [] => .ok (.ofUnmatched word)
  | none, [(_, opt)] => .ok (.option opt attachment)
  | none, several => .error (.ambiguous word (several.map (·.1)))

def Word.ofText (word : Text) : Except UsageError Word :=
  match word with
  | '-' :: '-' :: _ => Word.ofLong word
  | '-' :: letter :: behind =>
      match spellings.lookup ['-', letter] with
      | some opt => .ok (.option opt (attachmentBehind behind))
      | none => .ok (.ofUnmatched word)
  | _ => .ok (.plain word)

/-- Behind two dashes alone every word is plain. -/
def readWords : List Text → Except UsageError (List Word)
  | [] => .ok []
  | text :: rest =>
      if text = ("--" : Text) then .ok (.terminator :: rest.map .plain)
      else do
        let word ← Word.ofText text
        let words ← readWords rest
        pure (word :: words)

end WidgetBindings.CommandLine
