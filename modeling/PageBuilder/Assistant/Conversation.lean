import PageBuilder.Text.Blank

/-!
# Conversations

The transcript of a chat with the assistant, and the messages it has still to answer. An answer
becomes due some time after its message; times are nanoseconds after a common start.
-/

namespace PageBuilder

/-- A millisecond, in the unit of all times. -/
def millisecond : Nat := 1000000

/-- Who wrote a message. -/
inductive Role
  | user | assistant
  deriving DecidableEq, Repr

/-- A message, numbered from one on. -/
structure Message where
  number : Nat
  role : Role
  text : String
  deriving DecidableEq, Repr

/-- A message that waits for its answer. -/
structure Pending where
  input : String
  /-- From when on it may be answered. -/
  due : Nat
  deriving DecidableEq, Repr

/-- A chat with the assistant. -/
structure Conversation where
  messages : List Message := []
  /-- What is still to be answered, the first sent first. -/
  pending : List Pending := []
  /-- The last number that was given to a message. -/
  issued : Nat := 0
  deriving DecidableEq, Repr

namespace Conversation

/-- How long the assistant takes. -/
def replyDelay : Nat := 600 * millisecond

def greeting : String :=
  "Hello! I am your AI Design Assistant. I can help you align elements, change styles across your "
    ++ "project, or add new components. What's on your mind?"

/-- Puts a message with the next number at the end of the transcript. -/
def push (c : Conversation) (role : Role) (text : String) : Conversation :=
  let number := c.issued + 1
  { c with messages := c.messages ++ [⟨number, role, text⟩], issued := number }

def new : Conversation := push {} .assistant greeting

/-- Records a message of the user and queues its answer. Nothing becomes of a blank one. -/
def send? (c : Conversation) (text : String) (now : Nat) : Option Conversation :=
  if Text.isBlank text then none
  else
    let c := c.push .user text
    some { c with pending := c.pending ++ [⟨text, now + replyDelay⟩] }

/-- Takes the messages out of the queue whose answers are due. -/
def takeDue (c : Conversation) (now : Nat) : List Pending × Conversation :=
  (c.pending.filter (·.due ≤ now), { c with pending := c.pending.filter (now < ·.due) })

/-- Takes all messages out of the queue. -/
def takeAll (c : Conversation) : List Pending × Conversation :=
  (c.pending, { c with pending := [] })

/-- Records an answer of the assistant. -/
def reply (c : Conversation) (text : String) : Conversation := c.push .assistant text

end Conversation

end PageBuilder
