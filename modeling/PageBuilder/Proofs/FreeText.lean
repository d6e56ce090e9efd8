import PageBuilder.CommandLine.Session

/-!
# Free text on the command line

A prompt and a chat message are words of the command line. Options for every command can stand in
front of the command and behind it, but once the first word of the text has been read all words
behind it belong to the text, whatever they look like. So the text is read as it was typed, and the
options are those in front of the command.

The options are read word by word. What one option makes of the state of a reading is a step; the
state after a list of options is found by induction on the list.
-/

namespace PageBuilder.CommandLine

/-! ## Options in front of a command -/

/-- What an option for every command sets. -/
inductive Setting
  | dataDirectory | project
  deriving DecidableEq, Repr

def Setting.name : Setting → String
  | dataDirectory => "data-dir"
  | project => "project"

/-- An option for every command as it is typed, with its value attached or in the next word. -/
structure GlobalOption where
  setting : Setting
  value : String
  attached : Bool
  deriving DecidableEq, Repr

namespace GlobalOption

def words (o : GlobalOption) : List String :=
  if o.attached then ["--" ++ o.setting.name ++ "=" ++ o.value]
  else ["--" ++ o.setting.name, o.value]

/-- Whether an option can be read: a value in a word of its own does not look like an option, and a
data directory is not empty. -/
structure Legible (o : GlobalOption) : Prop where
  plain : o.attached = false → Word.ofText o.value = .plain
  named : o.setting = .dataDirectory → o.value ≠ ""

/-- The value that a list of options has for a setting. -/
def valueOf (options : List GlobalOption) (setting : Setting) : Option String :=
  (options.find? (·.setting = setting)).map (·.value)

/-- The settings with that of one more option. -/
def setIn (o : GlobalOption) (globals : Globals) : Globals :=
  match o.setting with
  | .dataDirectory => { globals with dataDirectory := some o.value }
  | .project => { globals with project := some o.value }

end GlobalOption

theorem Setting.name_injective {setting setting' : Setting} (same : setting.name = setting'.name) :
    setting = setting' := by
  revert same
  cases setting <;> cases setting' <;> decide

/-- A long option without a value. -/
theorem ofText_long (setting : Setting) :
    Word.ofText ("--" ++ setting.name) = .long setting.name none := by
  cases setting <;> decide

/-- A long option with its value: the name has no equals sign, so it ends at the first one. -/
theorem ofText_attached (setting : Setting) (value : String) :
    Word.ofText ("--" ++ setting.name ++ "=" ++ value) = .long setting.name (some value) := by
  cases setting <;> simp [Word.ofText, Word.ofChars, Word.splitLong, Setting.name]

namespace GlobalOption

/-- The form of a command line has an option for every setting, which takes every legible value. -/
theorem exists_opt {o : GlobalOption} (legible : o.Legible) :
    ∃ opt, Invocation.form.options.find? (·.name == o.setting.name) = some opt ∧
      opt.name = o.setting.name ∧
      ∀ globals, opt.store globals o.value = .ok (o.setIn globals) := by
  rcases o with ⟨setting, value, attached⟩
  cases setting with
  | dataDirectory =>
    have filled : value ≠ "" := legible.named rfl
    refine ⟨_, rfl, rfl, fun globals => ?_⟩
    simp [setIn, readPath, filled, Except.map]
  | project => exact ⟨_, rfl, rfl, fun _ => rfl⟩

end GlobalOption

/-! ## Reading options -/

namespace Reading

/-- Whether a reading in front of a command is between two options, with some settings read. -/
structure Between (r : Reading Globals) (globals : Globals) (given : List String) : Prop where
  wordwise : r.verbatim = false
  complete : r.awaiting? = none
  settled : r.settle = .ok { r with draft := globals, given, unsettled := .nothing }

variable {r : Reading Globals} {globals : Globals} {given : List String} {o : GlobalOption}

/-- An option that was not given before is stored. -/
theorem storeOption_new {opt : Opt Globals} {value : String} {draft : Globals}
    (new : opt.name ∉ r.given) (stored : opt.store r.draft value = .ok draft) :
    r.storeOption opt value = .ok { r with draft, given := opt.name :: r.given } := by
  simp [storeOption, new, stored, Except.map]

/-- A word that is no argument is taken, and the reading goes on behind it. -/
theorem readOn_of_part {word : String} {next : Reading Globals} (part : Part Globals)
    (meant : r.part word = part) (noOperand : part ≠ .operand)
    (taken : r.takePart Invocation.form word part = .ok next) (rest : List String) :
    Invocation.readOn r (word :: rest) = Invocation.readOn next rest := by
  rw [Invocation.readOn]
  split
  · next operand => exact absurd (meant.symm.trans operand) noOperand
  · simp only [meant, taken]

/-- Step lemma: the words of an option lead from between options to between options. -/
theorem Between.step (h : r.Between globals given) (legible : o.Legible)
    (new : o.setting.name ∉ given) :
    ∃ r', Between r' (o.setIn globals) (o.setting.name :: given) ∧
      ∀ rest, Invocation.readOn r (o.words ++ rest) = Invocation.readOn r' rest := by
  obtain ⟨opt, found, name, store⟩ := o.exists_opt legible
  have known : ∀ value,
      r.takeLong Invocation.form o.setting.name value = r.takeOption opt value := by
    intro value
    simp only [takeLong, found]
  have stored : ∀ operands verbatim,
      storeOption ⟨globals, given, .nothing, operands, verbatim⟩ opt o.value =
        .ok ⟨o.setIn globals, o.setting.name :: given, .nothing, operands, verbatim⟩ := by
    intro operands verbatim
    rw [← name] at new ⊢
    exact storeOption_new new (store globals)
  cases way : o.attached with
  | true =>
    -- The value is stored at once.
    have words : o.words = ["--" ++ o.setting.name ++ "=" ++ o.value] := by
      simp [GlobalOption.words, way]
    refine ⟨⟨o.setIn globals, o.setting.name :: given, .nothing, r.operands, false⟩,
      ⟨rfl, rfl, rfl⟩, fun rest => ?_⟩
    rw [words]
    refine readOn_of_part (.long o.setting.name (some o.value)) ?_ nofun ?_ rest
    · simp [part, h.wordwise, ofText_attached]
    · simp [takePart, known, takeOption, h.settled, bind, Except.bind, stored, h.wordwise]
  | false =>
    -- The value waits in the next word, and is stored when something follows it.
    have words : o.words = ["--" ++ o.setting.name, o.value] := by
      simp [GlobalOption.words, way]
    let waiting : Reading Globals := ⟨globals, given, .option opt none, r.operands, false⟩
    let valued : Reading Globals := { waiting with unsettled := .option opt (some o.value) }
    have opened : ∀ rest, Invocation.readOn r (("--" ++ o.setting.name) :: rest) =
        Invocation.readOn waiting rest := by
      refine readOn_of_part (.long o.setting.name none) ?_ nofun ?_
      · simp [part, h.wordwise, ofText_long]
      · simp [takePart, known, takeOption, h.settled, bind, Except.bind, h.wordwise, waiting, pure,
          Except.pure]
    have filled : ∀ rest, Invocation.readOn waiting (o.value :: rest) =
        Invocation.readOn valued rest := by
      refine readOn_of_part (.value opt) ?_ nofun rfl
      simp [part, legible.plain way, awaiting?, waiting]
    refine ⟨valued, ⟨rfl, rfl, stored _ _⟩, fun rest => ?_⟩
    rw [words]
    exact (opened (o.value :: rest)).trans (filled rest)

/-- Run lemma: the words of options with different settings lead from between options to between
options, where the settings are those of the options. -/
theorem Between.run {options : List GlobalOption} (h : r.Between globals given)
    (legible : ∀ o ∈ options, o.Legible) (once : (options.map (·.setting)).Nodup)
    (new : ∀ o ∈ options, o.setting.name ∉ given) :
    ∃ r' given', Between r' (options.foldl (fun globals o => o.setIn globals) globals) given' ∧
      ∀ rest, Invocation.readOn r (options.flatMap GlobalOption.words ++ rest) =
        Invocation.readOn r' rest := by
  induction options generalizing r globals given with
  | nil => exact ⟨r, given, h, fun _ => rfl⟩
  | cons o options ih =>
    rw [List.map_cons, List.nodup_cons] at once
    obtain ⟨next, between, first⟩ :=
      h.step (legible o List.mem_cons_self) (new o List.mem_cons_self)
    -- The step makes one more name given, which no later option has.
    have others : ∀ o' ∈ options, o'.setting.name ∉ o.setting.name :: given := by
      intro o' later
      rw [List.mem_cons, not_or]
      refine ⟨fun same => ?_, new o' (List.mem_cons_of_mem _ later)⟩
      exact once.1 (Setting.name_injective same ▸ List.mem_map_of_mem later)
    obtain ⟨last, given', ends, more⟩ :=
      ih between (fun o' later => legible o' (List.mem_cons_of_mem _ later)) once.2 others
    refine ⟨last, given', ends, fun rest => ?_⟩
    rw [List.flatMap_cons, List.append_assoc, first, more]

end Reading

/-- There is nothing to add where nothing is given. -/
@[simp] theorem Globals.orElse_empty (globals : Globals) : globals.orElse {} = globals := by
  cases globals
  simp [orElse]

namespace GlobalOption

/-- The settings of a list of options, over settings from elsewhere. -/
theorem foldl_setIn {options : List GlobalOption} (once : (options.map (·.setting)).Nodup)
    (globals : Globals) :
    options.foldl (fun globals o => o.setIn globals) globals =
      Globals.orElse ⟨valueOf options .dataDirectory, valueOf options .project⟩ globals := by
  induction options generalizing globals with
  | nil => rfl
  | cons o options ih =>
    rw [List.map_cons, List.nodup_cons] at once
    -- No later option has the setting of this one.
    have last : options.find? (·.setting = o.setting) = none := by
      refine List.find?_eq_none.2 fun o' later same => once.1 ?_
      exact of_decide_eq_true same ▸ List.mem_map_of_mem later
    rw [List.foldl_cons, ih once.2]
    rcases o with ⟨setting, value, attached⟩
    cases setting <;> simp [setIn, valueOf, Globals.orElse, show options.find? _ = none from last]

theorem ne_empty_of_valueOf {options : List GlobalOption} (legible : ∀ o ∈ options, o.Legible)
    {path : String} (given : valueOf options .dataDirectory = some path) : path ≠ "" := by
  rcases Option.map_eq_some_iff.1 given with ⟨o, found, rfl⟩
  have directory : o.setting = .dataDirectory := by
    simpa using List.find?_some found
  exact (legible o (List.mem_of_find?_eq_some found)).named directory

end GlobalOption

/-! ## The words of a text -/

/-- The commands that take a text, by name. -/
def textCommands : List (String × (List String → Request)) :=
  [("prompt", .prompt), ("chat", .chat)]

section

variable {first : String} (start : first.toList.head? ≠ some '-') (rest : List String)

include start

/-- Behind its first word a text is taken as it is. -/
theorem withWords_eq (request : List String → Request) :
    withWords request (first :: rest) = .ok ({}, request (first :: rest)) := by
  have plain : Word.ofText first = .plain := Word.ofText_eq_plain start
  simp [withWords, readBy, Form.read, Form.readOn, Draft.form, Reading.part, plain,
    Reading.awaiting?, Reading.settle, Except.map]

/-- Between two options, the name of such a command starts its text. -/
theorem readOn_text {r : Reading Globals} {globals : Globals} {given : List String}
    (h : r.Between globals given) {name : String} {request : List String → Request}
    (command : (name, request) ∈ textCommands) :
    Invocation.readOn r (name :: first :: rest) = .ok ⟨globals, request (first :: rest)⟩ := by
  have known : Word.ofText name = .plain ∧ name ≠ Invocation.helpCommand ∧
      Invocation.reader? name = some (withWords request) := by
    simp only [textCommands, List.mem_cons, Prod.mk.injEq, List.not_mem_nil, or_false] at command
    rcases command with ⟨rfl, rfl⟩ | ⟨rfl, rfl⟩
    · exact ⟨by decide, by decide, rfl⟩
    · exact ⟨by decide, by decide, rfl⟩
  obtain ⟨plain, noHelp, reader⟩ := known
  have operand : r.part name = .operand := by
    simp [Reading.part, h.wordwise, plain, h.complete]
  simp [Invocation.readOn, operand, h.wordwise, noHelp, reader, Invocation.readCommand,
    withWords_eq start, h.settled, bind, Except.bind, pure, Except.pure, Globals.orElse]

end

/-! ## What becomes of a text -/

namespace Session

variable (s : Session) (stamp : Stamp) (words : List String)

theorem run_prompt :
    s.run stamp (.prompt words) =
      { output := Text.unlines (s.editor.synthesize (" ".intercalate words)).1
        session := { s with editor := (s.editor.synthesize (" ".intercalate words)).2 } } := by
  have ran : s.run stamp (.prompt words) =
      { output := "" ++ Text.unlines (s.editor.synthesize (" ".intercalate words)).1
        session := { s with editor := (s.editor.synthesize (" ".intercalate words)).2 } } := rfl
  rw [ran, String.empty_append]

theorem run_chat :
    let sent := (s.editor.sendChat (" ".intercalate words) (stamp.time.toNat * millisecond)).2
    let answered := sent.resolveAllReplies.2
    s.run stamp (.chat words) =
      { output := Text.unlines (latestReply answered.chat).toList
        session := { s with editor := answered } } := by
  intro sent answered
  have ran : s.run stamp (.chat words) =
      { output := "" ++ Text.unlines (latestReply answered.chat).toList
        session := { s with editor := answered } } := rfl
  rw [ran, String.empty_append]

end Session

/-- **Free text is captured as it was typed.** The options stand in front of the command, with their
values attached or not, and each at most once. Then a prompt or a chat message whose first word does
not start with a hyphen is read with all its words, whatever the others are; the directory and the
project are those of the options or the usual ones, where the environment has none; and the editor
is given the words with single spaces between them. -/
theorem Invocation.parse_of_text (options : List GlobalOption)
    (legible : ∀ o ∈ options, o.Legible) (once : (options.map (·.setting)).Nodup)
    {first : String} (start : first.toList.head? ≠ some '-') (rest : List String) :
    let globals : Globals :=
      ⟨GlobalOption.valueOf options .dataDirectory, GlobalOption.valueOf options .project⟩
    (∀ name request, (name, request) ∈ textCommands →
      (parse (options.flatMap GlobalOption.words ++ name :: first :: rest)).bind
          (·.inEnvironment {}) = .ok ⟨globals, request (first :: rest)⟩) ∧
    globals.config =
      { dataDirectory := (GlobalOption.valueOf options .dataDirectory).getD ".pagewright"
        project := (GlobalOption.valueOf options .project).getD "My Project" } ∧
    ∀ (s : Session) (stamp : Stamp),
      let text := " ".intercalate (first :: rest)
      let prompted := s.editor.synthesize text
      let answered := (s.editor.sendChat text (stamp.time.toNat * millisecond)).2.resolveAllReplies.2
      s.run stamp (.prompt (first :: rest)) =
        { output := Text.unlines prompted.1, session := { s with editor := prompted.2 } } ∧
      s.run stamp (.chat (first :: rest)) =
        { output := Text.unlines (latestReply answered.chat).toList
          session := { s with editor := answered } } := by
  intro globals
  refine ⟨?_, rfl, fun s stamp => ⟨s.run_prompt stamp _, s.run_chat stamp _⟩⟩
  intro name request command
  have blank : Reading.Between { draft := {}, operands := [] } {} [] := ⟨rfl, rfl, rfl⟩
  obtain ⟨r, given, between, front⟩ := blank.run legible once (by simp)
  rw [GlobalOption.foldl_setIn once, Globals.orElse_empty] at between
  have read := readOn_text start rest between command
  have parsed : parse (options.flatMap GlobalOption.words ++ name :: first :: rest) =
      .ok ⟨globals, request (first :: rest)⟩ := by
    rw [parse, front, read]
  rw [parsed]
  -- The environment adds nothing, but the directory is checked again.
  cases path : globals.dataDirectory with
  | none => simp [Except.bind, inEnvironment, path]
  | some directory =>
    have filled : directory ≠ "" := GlobalOption.ne_empty_of_valueOf legible path
    simp [Except.bind, inEnvironment, path, readPath, filled, Except.map]

/-- A prompt with words that are spelled like options, behind options in both forms, and a chat
message with words that are spelled like commands. -/
theorem Invocation.parse_of_text_with_options :
    let options : List GlobalOption := [⟨.project, "-x", true⟩, ⟨.dataDirectory, "site", false⟩]
    let rest := ["--data-dir", "other", "--", "--help"]
    (∀ o ∈ options, o.Legible) ∧ (options.map (·.setting)).Nodup ∧
      "a".toList.head? ≠ some '-' ∧ "".toList.head? ≠ some '-' ∧
      (parse ["--project=-x", "--data-dir", "site", "prompt", "a", "--data-dir", "other", "--",
        "--help"]).bind (·.inEnvironment {}) =
        .ok ⟨⟨some "site", some "-x"⟩, .prompt ("a" :: rest)⟩ ∧
      (parse ["chat", "", "chat", "list"]).bind (·.inEnvironment {}) =
        .ok ⟨{}, .chat ["", "chat", "list"]⟩ := by
  intro options rest
  have legible : ∀ o ∈ options, o.Legible := by
    simp only [options, List.forall_mem_cons]
    exact ⟨⟨nofun, nofun⟩, ⟨fun _ => by decide, fun _ => by decide⟩, nofun⟩
  have once : (options.map (·.setting)).Nodup := by decide
  have letter : "a".toList.head? ≠ some '-' := by decide
  have nothing : "".toList.head? ≠ some '-' := by decide
  have prompt := (parse_of_text options legible once letter rest).1 "prompt" .prompt
    (by simp [textCommands])
  have chat := (parse_of_text [] nofun .nil nothing ["chat", "list"]).1 "chat" .chat
    (by simp [textCommands])
  exact ⟨legible, once, letter, nothing, prompt, chat⟩

end PageBuilder.CommandLine
