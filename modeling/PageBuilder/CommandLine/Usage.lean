import PageBuilder.Json.Choice

/-!
# Command line words

How a word of a command line looks, what a value on it can be read as, and why a command line as a
whole cannot be carried out.
-/

namespace PageBuilder.CommandLine

/-- Why a command line cannot be carried out. -/
inductive UsageFault
  /-- Help was asked for. -/
  | helpWanted
  /-- The version was asked for. -/
  | versionWanted
  /-- There are neither options nor a command. -/
  | nothingGiven
  /-- There are options but no command. -/
  | commandMissing
  | unknownCommand
  /-- An argument that the command needs is not there. -/
  | argumentMissing
  | unknownArgument
  /-- An option has no value, or one that is not among those it takes. -/
  | badValue
  /-- A number is not one, or out of range. -/
  | badNumber
  /-- An option that takes a single value is given twice. -/
  | optionRepeated
  /-- A switch is given a value. -/
  | valueUnneeded
  deriving DecidableEq, Repr

def version : String := "0.2.0"

/-- A short report of a fault; the longer texts, as for help, are not kept. -/
def UsageFault.message : UsageFault → String
  | helpWanted => "usage: pagewright [--data-dir PATH] [--project NAME] COMMAND ..."
  | versionWanted => "pagewright " ++ version
  | nothingGiven => "nothing to do"
  | commandMissing => "a command is missing"
  | unknownCommand => "there is no such command"
  | argumentMissing => "an argument is missing"
  | unknownArgument => "there is no such argument here"
  | badValue => "an option cannot have this value"
  | badNumber => "a number is malformed or out of range"
  | optionRepeated => "an option is given twice"
  | valueUnneeded => "an option takes no value"

/-- Whether the command line asks for a text only. -/
def UsageFault.isAnswer : UsageFault → Bool
  | helpWanted => true
  | versionWanted => true
  | _ => false

/-! ## Words -/

/-- How a word looks. -/
inductive Word
  /-- Two hyphens: what follows are arguments, whatever they look like. -/
  | separator
  /-- A long option, with its value if that is attached. -/
  | long (name : String) (value : Option String)
  /-- A hyphen and letters: a short option, perhaps with its value attached. -/
  | short (letters : List Char)
  /-- Anything else; a single hyphen as well. -/
  | plain
  deriving DecidableEq, Repr

namespace Word

/-- Splits a long option at its first equals sign. -/
def splitLong (chars : List Char) : Word :=
  match chars.dropWhile (· ≠ '=') with
  | [] => long (String.ofList chars) none
  | _ :: value => long (String.ofList (chars.takeWhile (· ≠ '='))) (some (String.ofList value))

def ofChars : List Char → Word
  | ['-', '-'] => separator
  | '-' :: '-' :: rest => splitLong rest
  | '-' :: c :: rest => short (c :: rest)
  | _ => plain

def ofText (text : String) : Word := ofChars text.toList

/-- A word that does not start with a hyphen is plain. -/
theorem ofText_eq_plain {text : String} (h : text.toList.head? ≠ some '-') :
    ofText text = plain := by
  unfold ofText
  cases chars : text.toList with
  | nil => rfl
  | cons c rest =>
    rw [chars] at h
    have different : c ≠ '-' := by simpa using h
    simp [ofChars, different]

end Word

/-! ## Values -/

/-- The value attached to a short option: what follows its letter, without an equals sign in front.
-/
def attachedValue : List Char → Option String
  | [] => none
  | '=' :: value => some (String.ofList value)
  | value => some (String.ofList value)

/-- A path: anything but the empty text. -/
def readPath (text : String) : Except UsageFault String :=
  if text.isEmpty then .error .badValue else .ok text

/-- A name out of a closed set, spelled exactly. -/
def readChoice {α : Type} [Choice α] (text : String) : Except UsageFault α :=
  match Choice.ofName? text with
  | some choice => .ok choice
  | none => .error .badValue

/-- The value of a text of digits, if it is one. -/
def digitsValue? (digits : List Char) : Option Nat :=
  if digits.isEmpty || !digits.all Char.isDigit then none else some (Nat.ofDigitChars 10 digits 0)

/-- An integer: digits, with a sign in front if need be. -/
def integer? : List Char → Option Int
  | '-' :: digits => (digitsValue? digits).map fun n => -(n : Int)
  | '+' :: digits => (digitsValue? digits).map Int.ofNat
  | digits => (digitsValue? digits).map Int.ofNat

/-- A natural number below a limit. -/
def readNatural (limit : Nat) (text : String) : Except UsageFault Nat :=
  match integer? text.toList with
  | some n => if 0 ≤ n ∧ n < limit then .ok n.toNat else .error .badNumber
  | none => .error .badNumber

end PageBuilder.CommandLine
