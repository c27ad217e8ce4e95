import WidgetBindings.Text.Basic

namespace WidgetBindings.Text

/-! Lines of a text and their indentation.

Every line keeps the line end that closes it, so `(lines text).flatten` is the text again. A
carriage return directly before a line feed closes one line together with it.
-/

def isLineEnd (char : Char) : Bool :=
  ['\n', '\r', '\x0b', '\x0c', '\x1c', '\x1d', '\x1e', '\x85', '\u2028', '\u2029'].contains char

def lines : Text → List Text
  | [] => []
  | '\r' :: '\n' :: rest => ['\r', '\n'] :: lines rest
  | char :: rest =>
      if isLineEnd char then [char] :: lines rest
      else
        match lines rest with
        | [] => [[char]]
        | line :: more => (char :: line) :: more

theorem lines_flatten (text : Text) : (lines text).flatten = text := by
  fun_induction lines text with
  | case1 => rfl
  | case2 rest ih => simp [ih]
  | case3 char rest _ _ ih => simp [ih]
  | case4 char rest _ _ none ih => simpa [none] using ih
  | case5 char rest _ _ line more split ih =>
      rw [split] at ih
      simpa using ih

/-- White space of Unicode 14, which includes the information separators U+001C to U+001F. -/
def isBlankChar (char : Char) : Bool :=
  let code := char.toNat
  (0x09 ≤ code && code ≤ 0x0d) || (0x1c ≤ code && code ≤ 0x20) || code == 0x85 || code == 0xa0 ||
    code == 0x1680 || (0x2000 ≤ code && code ≤ 0x200a) || code == 0x2028 || code == 0x2029 ||
    code == 0x202f || code == 0x205f || code == 0x3000

/-- Nothing but white space; the empty text is blank. -/
def isBlank (text : Text) : Bool :=
  text.all isBlankChar

/-- Four spaces to a level. -/
def padding (level : Nat) : Text :=
  List.replicate (4 * level) ' '

def line (level : Nat) (content : Text) : Text :=
  padding level ++ content ++ "\n"

/-- A blank line is left as it is, so that no line ends in added spaces. -/
def indentLine (level : Nat) (line : Text) : Text :=
  if isBlank line then line else padding level ++ line

def indent (level : Nat) (code : Text) : Text :=
  (lines code).flatMap (indentLine level)

/-- Why there is no padding for a level. -/
inductive LevelFault
  | notCountable
  | tooLong
  | outOfMemory
deriving DecidableEq, Repr

def LevelFault.message : LevelFault → Text
  | .notCountable => "cannot fit 'int' into an index-sized integer"
  | .tooLong => "repeated string is too long"
  | .outOfMemory => []

/-- Counts and lengths are signed words of 64 bits. -/
def countLimit : Int := 0x8000000000000000

/-- In characters: a padding of this length has no room in memory. -/
def memoryLimit : Int := 0x800000000

def levelFault? (level : Int) : Option LevelFault :=
  if level < -countLimit ∨ countLimit ≤ level then some .notCountable
  else if countLimit ≤ 4 * level then some .tooLong
  else if memoryLimit ≤ 4 * level then some .outOfMemory
  else none

/-- A level below zero adds nothing. One that has no padding is refused even if no line would need it. -/
def indentBy (level : Int) (code : Text) : Except LevelFault Text :=
  match levelFault? level with
  | some fault => .error fault
  | none => .ok (indent level.toNat code)

end WidgetBindings.Text
