import PageBuilder.CommandLine.Usage

/-!
# Forms of command lines

A form says which options and arguments a command takes; reading fills a draft with them. An option
may have its value attached or in the next word. What such a word holds is settled late: when the
next option or argument comes, or at the end; so of two faults the one of an unknown option goes
first.
-/

namespace PageBuilder.CommandLine

/-- An option with a value: its names, and how the value goes into a draft. -/
structure Opt (δ : Type) where
  name : String
  letter : Option Char := none
  /-- Whether it may be given more than once. -/
  repeatable : Bool := false
  store : δ → String → Except UsageFault δ

/-- An option without a value, which ends the reading. -/
structure Switch where
  name : String
  letter : Char
  outcome : UsageFault

def Switch.help : Switch := ⟨"help", 'h', .helpWanted⟩

def Switch.version : Switch := ⟨"version", 'V', .versionWanted⟩

/-- An argument: how it goes into a draft. -/
inductive Operand (δ : Type)
  | single (store : δ → String → Except UsageFault δ)
  /-- Takes its word and all that follow, whatever they look like. -/
  | rest (store : δ → List String → δ)

/-- What a command takes. -/
structure Form (δ : Type) where
  options : List (Opt δ) := []
  switches : List Switch := [.help]
  operands : List (Operand δ) := []

/-- What has been read but is not settled yet. -/
inductive Unsettled (δ : Type)
  | nothing
  /-- An option, with its value once that has been read. -/
  | option (opt : Opt δ) (value : Option String)
  | operand (store : δ → String → Except UsageFault δ) (value : String)

/-- The state of a reading. -/
structure Reading (δ : Type) where
  draft : δ
  /-- The options that have been settled. -/
  given : List String := []
  unsettled : Unsettled δ := .nothing
  /-- The arguments that are still to come. -/
  operands : List (Operand δ)
  /-- Whether every word is an argument from here on. -/
  verbatim : Bool := false

namespace Reading

variable {δ : Type}

/-- Stores the value of an option. -/
def storeOption (r : Reading δ) (opt : Opt δ) (value : String) : Except UsageFault (Reading δ) :=
  if !opt.repeatable && r.given.contains opt.name then .error .optionRepeated
  else (opt.store r.draft value).map fun draft => { r with draft, given := opt.name :: r.given }

/-- Settles what has been read. -/
def settle (r : Reading δ) : Except UsageFault (Reading δ) :=
  let settled := { r with unsettled := .nothing }
  match r.unsettled with
  | .nothing => .ok settled
  | .option _ none => .error .badValue
  | .option opt (some value) => settled.storeOption opt value
  | .operand store value => (store r.draft value).map fun draft => { settled with draft }

/-- Takes an option, with its value if that is attached. -/
def takeOption (r : Reading δ) (opt : Opt δ) (value : Option String) :
    Except UsageFault (Reading δ) := do
  let settled ← r.settle
  -- An attached value is stored at once, one in the next word only when something follows it.
  match value with
  | some value => settled.storeOption opt value
  | none => pure { settled with unsettled := .option opt none }

def takeSwitch (r : Reading δ) (switch : Switch) : Except UsageFault (Reading δ) :=
  match r.settle with
  | .ok _ => .error switch.outcome
  | .error fault => .error fault

def takeLong (form : Form δ) (r : Reading δ) (name : String) (value : Option String) :
    Except UsageFault (Reading δ) :=
  -- A name that means nothing is a fault at once, whatever is unsettled.
  match form.options.find? (·.name == name), form.switches.find? (·.name == name), value with
  | some opt, _, value => r.takeOption opt value
  | none, some _, some _ => .error .valueUnneeded
  | none, some switch, none => r.takeSwitch switch
  | none, none, _ => .error .unknownArgument

def takeShort (form : Form δ) (r : Reading δ) : List Char → Except UsageFault (Reading δ)
  | [] => .error .unknownArgument
  | letter :: attached =>
    match form.options.find? (·.letter == some letter),
      form.switches.find? (·.letter == letter) with
    | some opt, _ => r.takeOption opt (attachedValue attached)
    | none, some switch => r.takeSwitch switch
    | none, none => .error .unknownArgument

/-- The option that waits for its value in the next word. -/
def awaiting? (r : Reading δ) : Option (Opt δ) :=
  match r.unsettled with
  | .option opt none => some opt
  | _ => none

/-- What a word is for. -/
inductive Part (δ : Type)
  | separator
  | long (name : String) (value : Option String)
  | short (letters : List Char)
  | value (opt : Opt δ)
  | operand

/-- What the next word is for. -/
def part (r : Reading δ) (word : String) : Part δ :=
  if r.verbatim then .operand
  else
    match Word.ofText word with
    | .separator => .separator
    | .long name value => .long name value
    | .short letters => .short letters
    | .plain =>
      match r.awaiting? with
      | some opt => .value opt
      | none => .operand

/-- Takes a word that is no argument. -/
def takePart (form : Form δ) (r : Reading δ) (word : String) :
    Part δ → Except UsageFault (Reading δ)
  | .separator => .ok { r with verbatim := true }
  | .long name value => r.takeLong form name value
  | .short letters => r.takeShort form letters
  | .value opt => .ok { r with unsettled := .option opt (some word) }
  | .operand => .error .unknownArgument

end Reading

namespace Form

variable {δ : Type}

def readOn (form : Form δ) (r : Reading δ) : List String → Except UsageFault (Reading δ)
  | [] => r.settle
  | word :: rest =>
    match r.part word, r.operands with
    -- A surplus argument goes before what is unsettled.
    | .operand, [] => .error .unknownArgument
    | .operand, .single store :: operands =>
      match r.settle with
      | .ok r => readOn form { r with unsettled := .operand store word, operands } rest
      | .error fault => .error fault
    | .operand, .rest store :: _ =>
      r.settle.map fun r => { r with draft := store r.draft (word :: rest), operands := [] }
    | part, _ =>
      match r.takePart form word part with
      | .ok r => readOn form r rest
      | .error fault => .error fault

/-- Fills a draft with the words of a command. -/
def read (form : Form δ) (blank : δ) (words : List String) : Except UsageFault δ :=
  (form.readOn { draft := blank, operands := form.operands } words).map (·.draft)

end Form

end PageBuilder.CommandLine
