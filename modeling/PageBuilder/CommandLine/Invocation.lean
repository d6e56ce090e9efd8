import PageBuilder.CommandLine.Request

/-!
# Invocations

A whole command line: options for every command, the name of a command, and what belongs to that
command. The options for every command may also stand behind its name, where they go first.
-/

namespace PageBuilder.CommandLine

/-- What a command line asks for. -/
structure Invocation where
  globals : Globals
  request : Request
  deriving DecidableEq

namespace Invocation

def helpCommand : String := "help"

/-- How a command is read, by its name. -/
def reader? (name : String) : Option Command.Reader := commands.lookup name

def isCommand (word : String) : Bool := word == helpCommand || (reader? word).isSome

/-- What a word in place of a command is after the separator, where no command can stand. -/
def strayWord (word : String) : UsageFault :=
  if isCommand word then .unknownArgument else .unknownCommand

/-- The outcome of asking for help: on all commands, or on one. -/
def helpOutcome : List String → UsageFault
  | [] => .helpWanted
  | [name] => if isCommand name then .helpWanted else .unknownCommand
  | _ => .unknownCommand

/-- The form of what stands before the name of a command. -/
def form : Form Globals where
  options := Globals.options id fun _ globals => globals
  switches := [.help, .version]

def withoutCommand (r : Reading Globals) : UsageFault :=
  match r.settle with
  | .error fault => fault
  | .ok r => if r.given.isEmpty then .nothingGiven else .commandMissing

/-- Reads the words behind the name of a command; what stood before it is settled last. -/
def readCommand (r : Reading Globals) (reader : Command.Reader) (words : List String) :
    Except UsageFault Invocation := do
  let (inner, request) ← reader words
  -- Faults behind the name of the command go first.
  let r ← r.settle
  pure ⟨inner.orElse r.draft, request⟩

/-- Reads words up to the name of a command, and those behind it. -/
def readOn (r : Reading Globals) : List String → Except UsageFault Invocation
  | [] => .error (withoutCommand r)
  | word :: rest =>
    match r.part word with
    | .operand =>
      if r.verbatim then .error (strayWord word)
      else if word = helpCommand then .error (helpOutcome rest)
      else
        match reader? word with
        | some reader => readCommand r reader rest
        | none => .error .unknownCommand
    | part =>
      match r.takePart form word part with
      | .ok r => readOn r rest
      | .error fault => .error fault

def parse (words : List String) : Except UsageFault Invocation :=
  readOn { draft := {}, operands := [] } words

end Invocation

/-! ## Environment -/

/-- The variable that names the data directory. -/
def dataDirectoryVariable : String := "PAGEWRIGHT_DATA_DIR"

/-- The variable that names the project. -/
def projectVariable : String := "PAGEWRIGHT_PROJECT"

/-- The options of an invocation with those of the environment below them. -/
def Invocation.inEnvironment (i : Invocation) (environment : Globals) :
    Except UsageFault Invocation :=
  let globals := i.globals.orElse environment
  match globals.dataDirectory with
  | some path => (readPath path).map fun _ => { i with globals }
  | none => .ok { i with globals }

end PageBuilder.CommandLine
