import Mathlib.Data.List.Nodup
import PageBuilder.Proofs.Preservation

/-!
# Every message is answered once

What becomes of the messages of the user is written in a log, which is told from the operations
alone: a message that is taken gets a ticket when it is sent, and the ticket is noted once more when
it is answered. The conversation of an editor shows the log of its operations. The transcript says
what the log notes, and the queue holds the tickets that wait; those that wait and those that were
answered share out all that were sent.

Times need not increase, so a message may be due before one that was sent earlier.
-/

namespace PageBuilder

/-! ## Logs -/

/-- A message of the user that was taken, numbered in the order of sending. -/
structure Ticket where
  number : Nat
  text : String
  sentAt : Nat
  deriving DecidableEq

namespace Ticket

/-- Whether the assistant has had the time it takes. -/
def isDue (t : Ticket) (now : Nat) : Bool := t.sentAt + Conversation.replyDelay ≤ now

def command (t : Ticket) : Command := Command.interpret t.text

/-- The ticket as it waits in a conversation. -/
def pending (t : Ticket) : Pending := ⟨t.text, t.sentAt + Conversation.replyDelay⟩

end Ticket

def Pending.command (p : Pending) : Command := Command.interpret p.input

inductive ChatEvent
  | sent (ticket : Ticket)
  | answered (ticket : Ticket)
  deriving DecidableEq

namespace ChatEvent

def sent? : ChatEvent → Option Ticket
  | sent ticket => some ticket
  | answered _ => none

def answered? : ChatEvent → Option Ticket
  | sent _ => none
  | answered ticket => some ticket

/-- What is said, and by whom. -/
def spoken : ChatEvent → Role × String
  | sent ticket => (.user, ticket.text)
  | answered ticket => (.assistant, ticket.command.reply)

end ChatEvent

/-- The message that an operation sends, with its time; nothing is sent if it is blank. -/
def Operation.message? : Operation → Option (String × Nat)
  | .sendChat text now => if Text.isBlank text then none else some (text, now)
  | _ => none

/-- What happened in a conversation after its greeting. -/
structure ChatLog where
  events : List ChatEvent := []

namespace ChatLog

def sent (l : ChatLog) : List Ticket := l.events.filterMap ChatEvent.sent?

def answered (l : ChatLog) : List Ticket := l.events.filterMap ChatEvent.answered?

/-- The tickets that are still to be answered, in the order of sending. -/
def waiting (l : ChatLog) : List Ticket := l.sent.filter (· ∉ l.answered)

/-- The tickets that wait and were sent long enough ago. -/
def due (l : ChatLog) (now : Nat) : List Ticket := l.waiting.filter (·.isDue now)

def send (l : ChatLog) (text : String) (now : Nat) : ChatLog :=
  ⟨l.events ++ [.sent ⟨l.sent.length + 1, text, now⟩]⟩

def answer (l : ChatLog) (tickets : List Ticket) : ChatLog :=
  ⟨l.events ++ tickets.map .answered⟩

/-- The log after an operation. -/
def next (l : ChatLog) : Operation → ChatLog
  | .sendChat text now => if Text.isBlank text then l else l.send text now
  | .resolveReplies now => l.answer (l.due now)
  | .resolveAllReplies => l.answer l.waiting
  | _ => l

def ofRun (operations : List Operation) : ChatLog := operations.foldl next {}

/-- All that is said, the greeting first. -/
def spoken (l : ChatLog) : List (Role × String) :=
  (.assistant, Conversation.greeting) :: l.events.map ChatEvent.spoken

variable {l : ChatLog}

theorem spoken_send (l : ChatLog) (text : String) (now : Nat) :
    (l.send text now).spoken = l.spoken ++ [(.user, text)] := by
  simp [spoken, send, ChatEvent.spoken]

theorem spoken_answer (l : ChatLog) (tickets : List Ticket) :
    (l.answer tickets).spoken =
      l.spoken ++ tickets.map fun t => (.assistant, t.command.reply) := by
  simp [spoken, answer, Function.comp_def, ChatEvent.spoken]

@[simp]
theorem sent_send (l : ChatLog) (text : String) (now : Nat) :
    (l.send text now).sent = l.sent ++ [⟨l.sent.length + 1, text, now⟩] := by
  simp [sent, send, ChatEvent.sent?]

@[simp]
theorem answered_send (l : ChatLog) (text : String) (now : Nat) :
    (l.send text now).answered = l.answered := by
  simp [answered, send, ChatEvent.answered?]

@[simp]
theorem sent_answer (l : ChatLog) (tickets : List Ticket) :
    (l.answer tickets).sent = l.sent := by
  simp [sent, answer, List.filterMap_map, Function.comp_def, ChatEvent.sent?]

@[simp]
theorem answered_answer (l : ChatLog) (tickets : List Ticket) :
    (l.answer tickets).answered = l.answered ++ tickets := by
  simp [answered, answer, List.filterMap_map, Function.comp_def, ChatEvent.answered?]

/-! ### Sound logs -/

/-- Tickets are numbered in the order of sending, and none is answered that was not sent, or twice.
-/
structure Sound (l : ChatLog) : Prop where
  numbered : l.sent.map (·.number) = List.range' 1 l.sent.length
  once : l.answered.Nodup
  known : l.answered ⊆ l.sent

theorem Sound.nodup_sent (sound : l.Sound) : l.sent.Nodup := by
  have distinct : (l.sent.map (·.number)).Nodup := sound.numbered ▸ List.nodup_range'
  exact distinct.of_map

/-- The number of a new ticket is not in use. -/
theorem Sound.fresh (sound : l.Sound) (text : String) (now : Nat) :
    (⟨l.sent.length + 1, text, now⟩ : Ticket) ∉ l.sent := by
  intro there
  have number : l.sent.length + 1 ∈ l.sent.map (·.number) := List.mem_map_of_mem there
  rw [sound.numbered, List.mem_range'_1] at number
  omega

theorem Sound.send (sound : l.Sound) (text : String) (now : Nat) : (l.send text now).Sound := by
  refine ⟨?_, ?_, ?_⟩
  · rw [sent_send, List.map_append, sound.numbered, List.length_append, List.length_singleton,
      List.range'_concat]
    simp [Nat.add_comm]
  · rw [answered_send]
    exact sound.once
  · rw [sent_send, answered_send]
    exact List.subset_append_of_subset_left _ sound.known

theorem Sound.answer (sound : l.Sound) {tickets : List Ticket} (part : tickets.Sublist l.waiting) :
    (l.answer tickets).Sound := by
  have waits : ∀ t ∈ tickets, t ∈ l.sent ∧ t ∉ l.answered := by
    intro t there
    simpa [waiting] using part.subset there
  have distinct : tickets.Nodup := (sound.nodup_sent.filter _).sublist part
  refine ⟨?_, ?_, ?_⟩
  · rw [sent_answer]
    exact sound.numbered
  · rw [answered_answer]
    exact List.nodup_append'.2 ⟨sound.once, distinct, fun t old new => (waits t new).2 old⟩
  · rw [sent_answer, answered_answer]
    exact List.append_subset.2 ⟨sound.known, fun t there => (waits t there).1⟩

theorem Sound.next (sound : l.Sound) (operation : Operation) : (l.next operation).Sound := by
  cases operation with
  | sendChat text now =>
    simp only [ChatLog.next]
    split
    · exact sound
    · exact sound.send text now
  | resolveReplies now =>
    exact sound.answer List.filter_sublist
  | resolveAllReplies =>
    exact sound.answer (List.Sublist.refl _)
  | _ =>
    exact sound

theorem sound_empty : Sound {} := ⟨rfl, List.nodup_nil, List.Subset.refl _⟩

theorem sound_ofRun (operations : List Operation) : (ofRun operations).Sound :=
  List.foldlRecOn operations next sound_empty fun _ sound operation _ => sound.next operation

/-- Each ticket that was sent waits, or has been answered once. -/
theorem Sound.waits_or_answered (sound : l.Sound) {t : Ticket} (there : t ∈ l.sent) :
    t ∈ l.waiting ∧ l.answered.count t = 0 ∨ t ∉ l.waiting ∧ l.answered.count t = 1 := by
  by_cases answered : t ∈ l.answered
  · refine Or.inr ⟨?_, List.count_eq_one_of_mem sound.once answered⟩
    simp [waiting, answered]
  · refine Or.inl ⟨?_, List.count_eq_zero.2 answered⟩
    simp [waiting, there, answered]

theorem waiting_send (sound : l.Sound) (text : String) (now : Nat) :
    (l.send text now).waiting = l.waiting ++ [⟨l.sent.length + 1, text, now⟩] := by
  have new : (⟨l.sent.length + 1, text, now⟩ : Ticket) ∉ l.answered :=
    fun there => sound.fresh text now (sound.known there)
  simp [waiting, List.filter_append, new]

theorem waiting_answer (l : ChatLog) (tickets : List Ticket) :
    (l.answer tickets).waiting = l.waiting.filter (· ∉ tickets) := by
  simp only [waiting, sent_answer, answered_answer, List.filter_filter]
  refine List.filter_congr fun t _ => ?_
  by_cases old : t ∈ l.answered <;> simp [old]

theorem waiting_answer_due (l : ChatLog) (now : Nat) :
    (l.answer (l.due now)).waiting = l.waiting.filter (!·.isDue now) := by
  rw [waiting_answer]
  refine List.filter_congr fun t there => ?_
  simp [due, there]

theorem waiting_answer_all (l : ChatLog) : (l.answer l.waiting).waiting = [] := by
  rw [waiting_answer, List.filter_eq_nil_iff]
  intro t there
  simp [there]

/-! ### Logs of runs -/

theorem sent_next (l : ChatLog) (operation : Operation) :
    (l.next operation).sent.map (fun t => (t.text, t.sentAt)) =
      l.sent.map (fun t => (t.text, t.sentAt)) ++ operation.message?.toList := by
  cases operation with
  | sendChat text now =>
    simp only [next, Operation.message?]
    by_cases blank : Text.isBlank text
    · simp [blank]
    · simp [blank]
  | _ =>
    simp [next, Operation.message?]

/-- The tickets of a run are for the messages that it sends. -/
theorem sent_foldl (l : ChatLog) (operations : List Operation) :
    (operations.foldl next l).sent.map (fun t => (t.text, t.sentAt)) =
      l.sent.map (fun t => (t.text, t.sentAt)) ++ operations.filterMap Operation.message? := by
  induction operations generalizing l with
  | nil =>
    simp
  | cons operation rest ih =>
    rw [List.foldl_cons, ih, sent_next, List.append_assoc]
    cases message : operation.message? with
    | none => simp [message]
    | some sent => simp [message]

theorem spoken_prefix (l : ChatLog) (operations : List Operation) :
    l.spoken <+: (operations.foldl next l).spoken := by
  have step : ∀ (l : ChatLog) (operation : Operation), l.spoken <+: (l.next operation).spoken := by
    intro l operation
    cases operation with
    | sendChat text now =>
      simp only [next]
      split
      · exact List.prefix_refl _
      · rw [spoken_send]
        exact List.prefix_append _ _
    | resolveReplies now =>
      rw [next, spoken_answer]
      exact List.prefix_append _ _
    | resolveAllReplies =>
      rw [next, spoken_answer]
      exact List.prefix_append _ _
    | _ =>
      exact List.prefix_refl _
  induction operations generalizing l with
  | nil =>
    exact List.prefix_refl _
  | cons operation rest ih =>
    exact (step l operation).trans (ih (l.next operation))

end ChatLog

/-! ## Conversations -/

namespace Conversation

/-- What is said, as messages with numbers from one on. -/
def numbered (said : List (Role × String)) : List Message :=
  said.mapIdx fun i spoken => ⟨i + 1, spoken.1, spoken.2⟩

theorem numbered_concat (said : List (Role × String)) (role : Role) (text : String) :
    numbered (said ++ [(role, text)]) = numbered said ++ [⟨said.length + 1, role, text⟩] := by
  simp [numbered, List.mapIdx_append]

theorem numbered_prefix (said more : List (Role × String)) :
    numbered said <+: numbered (said ++ more) := by
  rw [numbered, numbered, List.mapIdx_append]
  exact List.prefix_append _ _

theorem length_numbered (said : List (Role × String)) : (numbered said).length = said.length :=
  List.length_mapIdx

theorem spoken_numbered (said : List (Role × String)) :
    (numbered said).map (fun m => (m.role, m.text)) = said := by
  refine List.ext_getElem (by simp [numbered]) fun i _ _ => ?_
  simp [numbered]

theorem numbers_numbered (said : List (Role × String)) :
    (numbered said).map (·.number) = List.range' 1 said.length := by
  refine List.ext_getElem (by simp [numbered]) fun i _ _ => ?_
  simp [numbered, Nat.add_comm]

/-- The transcript consists of what is said, numbered from one on, and the last number that was
given is that of the last message. -/
structure Tells (c : Conversation) (said : List (Role × String)) : Prop where
  messages : c.messages = numbered said
  issued : c.issued = said.length

variable {c : Conversation} {l : ChatLog} {said : List (Role × String)}

theorem Tells.push (tells : c.Tells said) (role : Role) (text : String) :
    (c.push role text).Tells (said ++ [(role, text)]) := by
  refine ⟨?_, ?_⟩
  · rw [Conversation.push, numbered_concat, tells.messages, tells.issued]
  · rw [Conversation.push, tells.issued, List.length_append, List.length_singleton]

/-- What is said, and how it is numbered, does not depend on the queue. -/
theorem Tells.withPending (tells : c.Tells said) (pending : List Pending) :
    Tells { c with pending } said :=
  ⟨tells.messages, tells.issued⟩

/-- Records the answers to commands. -/
def replyAll (c : Conversation) (commands : List Command) : Conversation :=
  commands.foldl (fun c command => c.reply command.reply) c

/-- Answers do not look at the queue. -/
theorem replyAll_pending (c : Conversation) (pending : List Pending) (commands : List Command) :
    { c with pending }.replyAll commands = { c.replyAll commands with pending } := by
  induction commands generalizing c with
  | nil =>
    rfl
  | cons command rest ih =>
    exact ih (c.reply command.reply)

theorem pending_replyAll (c : Conversation) (commands : List Command) :
    (c.replyAll commands).pending = c.pending := by
  induction commands generalizing c with
  | nil =>
    rfl
  | cons command rest ih =>
    exact ih (c.reply command.reply)

theorem Tells.replyAll (tells : c.Tells said) (commands : List Command) :
    (c.replyAll commands).Tells
      (said ++ commands.map fun command => (.assistant, command.reply)) := by
  induction commands generalizing c said with
  | nil =>
    simpa [Conversation.replyAll] using tells
  | cons command rest ih =>
    have replied := ih (tells.push .assistant command.reply)
    rw [List.map_cons, List.append_cons]
    exact replied

/-- The transcript says what a log notes, and the queue holds the tickets that wait. -/
structure Shows (c : Conversation) (l : ChatLog) : Prop extends c.Tells l.spoken where
  pending : c.pending = l.waiting.map Ticket.pending

theorem shows_new : Shows new {} := ⟨⟨rfl, rfl⟩, rfl⟩

theorem Shows.send (shows : c.Shows l) (sound : l.Sound) (text : String) (now : Nat) :
    Shows { c.push .user text with pending := c.pending ++ [⟨text, now + replyDelay⟩] }
      (l.send text now) := by
  refine ⟨?_, ?_⟩
  · have said := shows.toTells.push .user text
    rw [ChatLog.spoken_send]
    exact said.withPending _
  · rw [ChatLog.waiting_send sound, List.map_append, shows.pending]
    rfl

/-- Tickets are answered when they have been taken out of the queue. -/
theorem Shows.answer (shows : c.Shows l) (tickets : List Ticket) {rest : List Pending}
    (taken : rest = (l.answer tickets).waiting.map Ticket.pending) :
    ({ c with pending := rest }.replyAll (tickets.map Ticket.command)).Shows
      (l.answer tickets) := by
  refine ⟨?_, ?_⟩
  · have said := (shows.toTells.withPending rest).replyAll (tickets.map Ticket.command)
    rw [List.map_map] at said
    rw [ChatLog.spoken_answer]
    exact said
  · rw [pending_replyAll]
    exact taken

/-- What is due in the queue are the tickets that are due in the log. -/
theorem Shows.takeDue (shows : c.Shows l) (now : Nat) :
    c.takeDue now = ((l.due now).map Ticket.pending,
      { c with pending := (l.answer (l.due now)).waiting.map Ticket.pending }) := by
  have late : (fun t : Ticket => decide (now < t.pending.due)) = fun t => !t.isDue now := by
    funext t
    rw [Ticket.isDue, ← decide_not]
    exact decide_eq_decide.2 Nat.not_le.symm
  rw [ChatLog.waiting_answer_due, Conversation.takeDue, shows.pending, List.filter_map,
    List.filter_map]
  simp only [Function.comp_def, late]
  rfl

theorem Shows.takeAll (shows : c.Shows l) :
    c.takeAll = (l.waiting.map Ticket.pending,
      { c with pending := (l.answer l.waiting).waiting.map Ticket.pending }) := by
  rw [ChatLog.waiting_answer_all, Conversation.takeAll, shows.pending]
  rfl

end Conversation

/-! ## Editors -/

namespace Editor

variable {e : Editor} {l : ChatLog}

theorem firm_chat (c : Conversation) : Firm (fun e => e.chat = c) :=
  .of_shown (fun _ _ _ same => same) fun _ _ _ same => same

theorem chat_perform {operation : Operation} (silent : operation.keepsChat = true) :
    (e.perform operation).2.chat = e.chat := by
  cases apart : operation.keepsCatalog with
  | true =>
    exact (firm_chat e.chat).perform apart silent rfl
  | false =>
    cases operation with
    | saveProject stamp =>
      rfl
    | deleteProject name =>
      unfold perform deleteProject
      dsimp only
      split <;> rfl
    | press key typing stamp =>
      have saves : Shortcut.ofKeyPress? key typing = some .saveProject := by
        simpa [Operation.keepsCatalog] using apart
      rw [perform, press, saves]
      rfl
    | _ => cases apart

def withChat (e : Editor) (chat : Conversation) : Editor := { e with chat }

/-- A command does not look at the chat. -/
theorem apply_withChat (e : Editor) (chat : Conversation) (command : Command) :
    ((e.withChat chat).apply command).2 = (e.apply command).2.withChat chat := by
  have committed : ∀ (e : Editor) (next : Document),
      ((e.withChat chat).commit next).2 = (e.commit next).2.withChat chat := by
    intro e next
    unfold commit withChat
    dsimp only
    split <;> rfl
  cases command with
  | recolor swatch =>
    exact committed e _
  | centerAll =>
    exact committed e _
  | clear =>
    exact committed { e with view := e.view.deselect } _
  | setTheme theme =>
    exact committed { e with view := e.view.closePanel .themes } _
  | help =>
    rfl

/-- The editor after commands that the assistant carries out one after the other. -/
def obey (e : Editor) (commands : List Command) : Editor := e.run (commands.map .apply)

theorem obey_withChat (e : Editor) (chat : Conversation) (commands : List Command) :
    (e.withChat chat).obey commands = (e.obey commands).withChat chat := by
  induction commands generalizing e with
  | nil =>
    rfl
  | cons command rest ih =>
    calc
      (e.withChat chat).obey (command :: rest)
          = ((e.withChat chat).apply command).2.obey rest := rfl
      _ = ((e.apply command).2.withChat chat).obey rest := by rw [apply_withChat]
      _ = ((e.apply command).2.obey rest).withChat chat := ih _

/-- Answering messages is obeying their commands and recording the answers. -/
theorem answerAll_eq (e : Editor) (pending : List Pending) :
    (e.answerAll pending).2 = (e.obey (pending.map Pending.command)).withChat
      (e.chat.replyAll (pending.map Pending.command)) := by
  induction pending generalizing e with
  | nil =>
    rfl
  | cons p rest ih =>
    -- The command has left the chat alone, so the answer goes behind what was there before.
    have silent : (Operation.apply p.command).keepsChat = true := rfl
    have kept : (e.apply p.command).2.chat = e.chat := chat_perform silent
    have first : e.answer p.input =
        (e.apply p.command).2.withChat (e.chat.reply p.command.reply) := by
      rw [← kept]
      rfl
    calc
      (e.answerAll (p :: rest)).2 = ((e.answer p.input).answerAll rest).2 := rfl
      _ = ((e.answer p.input).obey (rest.map Pending.command)).withChat
            ((e.answer p.input).chat.replyAll (rest.map Pending.command)) := ih _
      _ = ((e.apply p.command).2.obey (rest.map Pending.command)).withChat
            ((e.chat.reply p.command.reply).replyAll (rest.map Pending.command)) := by
        rw [first, obey_withChat]
        rfl

/-- The same for messages that have been taken out of the queue before. -/
theorem answerAll_withChat (e : Editor) (chat : Conversation) (pending : List Pending) :
    ((e.withChat chat).answerAll pending).2 =
      (e.obey (pending.map Pending.command)).withChat
        (chat.replyAll (pending.map Pending.command)) := by
  rw [answerAll_eq, obey_withChat]
  rfl

/-- A message is taken unless it is blank. -/
theorem taken_sendChat (e : Editor) (text : String) (now : Nat) :
    (e.sendChat text now).1 = !Text.isBlank text := by
  cases blank : Text.isBlank text with
  | true => simp [sendChat, Conversation.send?, blank]
  | false => simp [sendChat, Conversation.send?, blank]

/-- What answering some tickets gives, when others wait: their number, and an editor that has obeyed
their commands one after the other, with an answer to each of them behind the transcript. -/
structure Resolved (tickets others : List Ticket) (e : Editor) (resolved : Nat × Editor) :
    Prop where
  count : resolved.1 = tickets.length
  obeyed : resolved.2 = (e.obey (tickets.map Ticket.command)).withChat resolved.2.chat
  replies : ∃ replies : List Message, resolved.2.chat.messages = e.chat.messages ++ replies ∧
    replies.map (fun m => (m.role, m.text)) =
      tickets.map fun t => (.assistant, t.command.reply)
  left : resolved.2.chat.pending = others.map Ticket.pending

/-- The editor with the queue of those tickets that wait when some are taken out to be answered. -/
def taking (e : Editor) (l : ChatLog) (tickets : List Ticket) : Editor :=
  e.withChat { e.chat with pending := (l.answer tickets).waiting.map Ticket.pending }

theorem resolveReplies_eq (shows : e.chat.Shows l) (now : Nat) :
    e.resolveReplies now =
      (e.taking l (l.due now)).answerAll ((l.due now).map Ticket.pending) := by
  rw [resolveReplies, shows.takeDue]
  rfl

theorem resolveAllReplies_eq (shows : e.chat.Shows l) :
    e.resolveAllReplies =
      (e.taking l l.waiting).answerAll (l.waiting.map Ticket.pending) := by
  rw [resolveAllReplies, shows.takeAll]
  rfl

theorem answerAll_taking (e : Editor) (l : ChatLog) (tickets : List Ticket) :
    ((e.taking l tickets).answerAll (tickets.map Ticket.pending)).2 =
      (e.obey (tickets.map Ticket.command)).withChat
        ((e.taking l tickets).chat.replyAll (tickets.map Ticket.command)) := by
  have commands : (tickets.map Ticket.pending).map Pending.command =
      tickets.map Ticket.command := List.map_map
  rw [taking, answerAll_withChat, commands]
  rfl

theorem shows_taking (shows : e.chat.Shows l) (tickets : List Ticket) :
    ((e.taking l tickets).answerAll (tickets.map Ticket.pending)).2.chat.Shows
      (l.answer tickets) := by
  rw [answerAll_taking]
  exact shows.answer tickets rfl

theorem resolved_taking (shows : e.chat.Shows l) (tickets : List Ticket) :
    Resolved tickets (l.answer tickets).waiting e
      ((e.taking l tickets).answerAll (tickets.map Ticket.pending)) := by
  have after := shows_taking shows tickets
  refine ⟨List.length_map .., ?_, ?_, after.pending⟩
  · rw [answerAll_taking]
    rfl
  · rcases Conversation.numbered_prefix l.spoken
      (tickets.map fun t => (.assistant, t.command.reply)) with ⟨replies, whole⟩
    refine ⟨replies, ?_, ?_⟩
    · rw [after.messages, shows.messages, ChatLog.spoken_answer, whole]
    · have parts := congrArg (List.map fun m : Message => (m.role, m.text)) whole
      rw [List.map_append, Conversation.spoken_numbered, Conversation.spoken_numbered] at parts
      exact List.append_cancel_left parts

/-- Step lemma: what an operation does to the conversation is what it does to the log. -/
theorem shows_perform (shows : e.chat.Shows l) (sound : l.Sound) (operation : Operation) :
    (e.perform operation).2.chat.Shows (l.next operation) := by
  cases operation with
  | sendChat text now =>
    simp only [perform, sendChat, Conversation.send?, ChatLog.next]
    by_cases blank : Text.isBlank text
    · simp only [blank, if_true]
      exact shows
    · simp only [blank, Bool.false_eq_true, if_false]
      exact shows.send sound text now
  | resolveReplies now =>
    have answered := shows_taking shows (l.due now)
    rw [← resolveReplies_eq shows now] at answered
    exact answered
  | resolveAllReplies =>
    have answered := shows_taking shows l.waiting
    rw [← resolveAllReplies_eq shows] at answered
    exact answered
  | _ =>
    rw [chat_perform rfl]
    exact shows

/-- Run lemma: the conversation goes on as the log does. -/
theorem shows_run (shows : e.chat.Shows l) (sound : l.Sound) (operations : List Operation) :
    (e.run operations).chat.Shows (operations.foldl ChatLog.next l) := by
  induction operations generalizing e l with
  | nil =>
    exact shows
  | cons operation rest ih =>
    exact ih (shows_perform shows sound operation) (sound.next operation)

/-- **Every message is answered once.** At any point of a run, each message that was taken waits in
the queue or has been answered once, and the queue holds those that wait in the order of sending.
The transcript is the greeting and what the log notes, numbered from one on, and it only grows at
its end. What is answered next are the messages that were sent long enough ago, or all of them if
that is asked for: their commands are obeyed in the order of sending, each in the editor that the
one before left. -/
theorem answered_once_of_run (store : Store) (ids : IdSource) (operations : List Operation) :
    let e := (openOn store ids).run operations
    let log := ChatLog.ofRun operations
    (∀ text now, (e.sendChat text now).1 = !Text.isBlank text) ∧
    log.sent.map (fun t => (t.text, t.sentAt)) = operations.filterMap Operation.message? ∧
    log.sent.Nodup ∧ log.answered ⊆ log.sent ∧
    (∀ t ∈ log.sent, t ∈ log.waiting ∧ log.answered.count t = 0 ∨
      t ∉ log.waiting ∧ log.answered.count t = 1) ∧
    e.chat.pending = log.waiting.map Ticket.pending ∧
    e.chat.messages.map (fun m => (m.role, m.text)) =
      (.assistant, Conversation.greeting) :: log.events.map ChatEvent.spoken ∧
    e.chat.messages.map (·.number) = List.range' 1 e.chat.messages.length ∧
    (∀ now, Resolved (log.due now) (log.waiting.filter (!·.isDue now)) e (e.resolveReplies now)) ∧
    Resolved log.waiting [] e e.resolveAllReplies ∧
    ∀ later, e.chat.messages <+: (e.run later).chat.messages := by
  intro e log
  have sound : log.Sound := ChatLog.sound_ofRun operations
  have shows : e.chat.Shows log :=
    shows_run Conversation.shows_new ChatLog.sound_empty operations
  refine ⟨e.taken_sendChat, ChatLog.sent_foldl {} operations, sound.nodup_sent, sound.known,
    fun t there => sound.waits_or_answered there, shows.pending, ?_, ?_, ?_, ?_, ?_⟩
  · rw [shows.messages]
    exact Conversation.spoken_numbered _
  · rw [shows.messages, Conversation.numbers_numbered, Conversation.length_numbered]
  · intro now
    rw [resolveReplies_eq shows, ← ChatLog.waiting_answer_due]
    exact resolved_taking shows _
  · rw [resolveAllReplies_eq shows, ← ChatLog.waiting_answer_all log]
    exact resolved_taking shows _
  · intro later
    rcases ChatLog.spoken_prefix log later with ⟨more, grown⟩
    have after := shows_run shows sound later
    rw [shows.messages, after.messages, ← grown]
    exact Conversation.numbered_prefix _ _

/-- The second message was sent at an earlier time, and is answered first. -/
example :
    let e := (openOn {} ⟨"t", 0⟩).run
      [.sendChat "red" (500 * millisecond), .sendChat "clear" 0,
        .resolveReplies (700 * millisecond)]
    e.chat.messages.map (·.text) =
        [Conversation.greeting, "red", "clear", Command.clear.reply] ∧
      e.chat.pending.map (·.input) = ["red"] := by
  decide +kernel

end Editor

end PageBuilder
