import PageBuilder.Json.Literal

/-!
# JSON tokens

The tokens of a JSON text, told apart by a scanner that looks at one character at a time. What
separates tokens is left out; whether they stand in a sensible order is not asked here.
-/

namespace PageBuilder.Json

/-- A token. A string that has half of a surrogate pair has no text. -/
inductive Token
  | openArray
  | closeArray
  | openObject
  | closeObject
  | comma
  | colon
  | null
  | bool (b : Bool)
  | number (literal : Literal)
  | string (text : Option String)
  deriving DecidableEq

/-- One piece of a string: a character that stands for itself, or a 16-bit unit written by its
number. -/
inductive Piece
  | char (c : Char)
  | unit (n : Nat)
  deriving DecidableEq

namespace Piece

/-- Whether a unit is the first half of a surrogate pair. -/
def isHigh (n : Nat) : Bool := 0xD800 ≤ n && n < 0xDC00

/-- Whether a unit is the second half of a surrogate pair. -/
def isLow (n : Nat) : Bool := 0xDC00 ≤ n && n < 0xE000

/-- The characters of a string; none if half of a surrogate pair stands alone. -/
def join : List Piece → Option (List Char)
  | [] => some []
  | char c :: rest => (join rest).map (c :: ·)
  | unit high :: unit low :: rest =>
    if isHigh high then
      -- Both halves together carry twenty bits, ten each.
      if isLow low then
        (join rest).map (Char.ofNat (0x10000 + (high - 0xD800) * 0x400 + (low - 0xDC00)) :: ·)
      else none
    else if isLow high then none
    else (join (unit low :: rest)).map (Char.ofNat high :: ·)
  | unit n :: rest =>
    if isHigh n || isLow n then none else (join rest).map (Char.ofNat n :: ·)

end Piece

/-- Where the scanner stands. Collected characters and pieces are held last first. -/
inductive Scan
  /-- Between tokens. -/
  | between
  /-- In a word of letters. -/
  | word (collected : List Char)
  /-- In a number. -/
  | digits (collected : List Char)
  /-- In a string. -/
  | text (collected : List Piece)
  /-- In a string, after a backslash. -/
  | escape (collected : List Piece)
  /-- In a string, in a unit of which some digits have been read. -/
  | unit (collected : List Piece) (count value : Nat)
  deriving DecidableEq

namespace Scan

/-- The white space between tokens. -/
def isSeparator (c : Char) : Bool := c = ' ' || c = '\t' || c = '\n' || c = '\r'

/-- Whether a character can stand in a number. -/
def isNumeric (c : Char) : Bool :=
  c.isDigit || c = '-' || c = '+' || c = '.' || c = 'e' || c = 'E'

def hexValue? (c : Char) : Option Nat :=
  if c.isDigit then some (c.toNat - '0'.toNat)
  else if 'a' ≤ c ∧ c ≤ 'f' then some (c.toNat - 'a'.toNat + 10)
  else if 'A' ≤ c ∧ c ≤ 'F' then some (c.toNat - 'A'.toNat + 10)
  else none

/-- The character a one-letter escape stands for. -/
def escaped? : Char → Option Char
  | '"' => some '"'
  | '\\' => some '\\'
  | '/' => some '/'
  | 'b' => some '\x08'
  | 'f' => some '\x0c'
  | 'n' => some '\n'
  | 'r' => some '\r'
  | 't' => some '\t'
  | _ => none

def ofWord? (word : List Char) : Option Token :=
  if word = ['n', 'u', 'l', 'l'] then some .null
  else if word = ['t', 'r', 'u', 'e'] then some (.bool true)
  else if word = ['f', 'a', 'l', 's', 'e'] then some (.bool false)
  else none

/-- The tokens that a character other than white space starts or is, and where the scanner stands
after it. -/
def start (c : Char) : Option (List Token × Scan) :=
  match c with
  | '[' => some ([.openArray], between)
  | ']' => some ([.closeArray], between)
  | '\x7b' => some ([.openObject], between)
  | '\x7d' => some ([.closeObject], between)
  | ',' => some ([.comma], between)
  | ':' => some ([.colon], between)
  | '"' => some ([], text [])
  | c =>
    if isSeparator c then some ([], between)
    else if isNumeric c && c ≠ 'e' && c ≠ 'E' then some ([], digits [c])
    else if c.isAlpha then some ([], word [c])
    else none

/-- The token that ends where the scanner stands, if one does. -/
def finish : Scan → Option (List Token)
  | between => some []
  | word collected => (ofWord? collected.reverse).map ([·])
  | digits collected => (Literal.ofChars? collected.reverse).map ([.number ·])
  | text _ => none
  | escape _ => none
  | unit _ _ _ => none

/-- Takes one character: the tokens that are complete with it, and where the scanner stands then. -/
def step (s : Scan) (c : Char) : Option (List Token × Scan) :=
  match s with
  | between => start c
  | word collected =>
    if c.isAlpha then some ([], word (c :: collected))
    -- The character that ends a word or a number may itself be a token.
    else do
      let ended ← finish (word collected)
      let (started, next) ← start c
      pure (ended ++ started, next)
  | digits collected =>
    if isNumeric c then some ([], digits (c :: collected))
    else do
      let ended ← finish (digits collected)
      let (started, next) ← start c
      pure (ended ++ started, next)
  | text collected =>
    if c = '"' then
      some ([.string ((Piece.join collected.reverse).map String.ofList)], between)
    else if c = '\\' then some ([], escape collected)
    else if c.toNat < 0x20 then none
    else some ([], text (.char c :: collected))
  | escape collected =>
    if c = 'u' then some ([], unit collected 0 0)
    else (escaped? c).map fun e => ([], text (.char e :: collected))
  | unit collected count value => do
    let digit ← hexValue? c
    let value := value * 16 + digit
    -- The fourth digit is the last one.
    if count = 3 then pure ([], text (.unit value :: collected))
    else pure ([], unit collected (count + 1) value)

/-- The tokens of a text, from where the scanner stands. -/
def tokens (s : Scan) : List Char → Option (List Token)
  | [] => finish s
  | c :: rest => do
    let (complete, next) ← step s c
    let later ← tokens next rest
    pure (complete ++ later)

end Scan

def tokenize (text : List Char) : Option (List Token) := Scan.between.tokens text

end PageBuilder.Json
