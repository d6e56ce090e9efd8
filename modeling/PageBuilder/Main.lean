import PageBuilder.CommandLine.Session
import PageBuilder.Storage.Change
import PageBuilder.Text.Hex
import Std.Time.DateTime.Timestamp

/-!
# The program

Takes the arguments, the environment, the clock and the files it needs, has the request carried out,
and makes the changes to the files.
-/

namespace PageBuilder.CommandLine

/-- What has been opened. A directory can be opened like a file, but not be read. -/
def openedEntry (handle : IO.FS.Handle) : IO Entry :=
  try
    return .file (← handle.readBinToEnd)
  catch _ =>
    return .directory

/-- What stands at a path, if anything does. A file that must not be opened counts as a directory:
both are there, and neither can be read. -/
def entryOutside (path : String) : IO (Option Entry) :=
  try
    return some (← openedEntry (← IO.FS.Handle.mk path .read))
  catch
    | .noFileOrDirectory .. => return none
    | .inappropriateType .. => return none
    | _ => return some .directory

/-- The part of the disk that lies on the way to some paths. -/
def diskAround (paths : List String) : IO Disk := do
  let mut disk : Disk := {}
  for place in paths.flatMap Disk.way do
    if (disk.entryAt? place).isNone then
      if let some entry ← entryOutside (Disk.pathOf place) then
        disk := disk.put place entry
  return disk

/-- Makes a change to the files. -/
def Change.make : Change → IO Unit
  | .makeDirectory path => IO.FS.createDirAll path
  | .write path contents => IO.FS.writeBinFile path contents
  | .move source target => IO.FS.rename source target

/-- The mark of the present moment. -/
def stampNow : IO Stamp := do
  let bytes ← IO.getRandomBytes 16
  let now ← Std.Time.Timestamp.now
  return ⟨Text.randomId bytes.toList, UInt64.ofNat now.toMillisecondsSinceUnixEpoch.toInt.toNat⟩

/-- The source of ids of this session. -/
def freshIds : IO IdSource := do
  let bytes ← IO.getRandomBytes 4
  return { session := String.ofList (Text.hex bytes.toList) }

/-- The options of the environment. -/
def environment : IO Globals := do
  return ⟨← IO.getEnv dataDirectoryVariable, ← IO.getEnv projectVariable⟩

/-- Reports why a command line cannot be carried out; gives the exit code. -/
def reportUsage (fault : UsageFault) : IO UInt32 := do
  if fault.isAnswer then
    IO.println fault.message
    return 0
  else
    IO.eprintln s!"error: {fault.message}"
    return 2

/-- A cause behind its mark; further lines are indented as far as the first one. -/
def causeText (mark cause : String) : String :=
  let margin := String.ofList (List.replicate mark.length ' ')
  mark ++ ("\n" ++ margin).intercalate (cause.splitOn "\n")

/-- The whole report of a fault. The causes are numbered if there are several; there are never more
than two. -/
def RunFault.report (fault : RunFault) : String :=
  let mark (n : Nat) : String := if fault.causes.length = 1 then "    " else s!"    {n}: "
  match fault.causes.mapIdx fun n cause => causeText (mark n) cause with
  | [] => fault.message
  | causes => fault.message ++ "\n\nCaused by:\n" ++ "\n".intercalate causes

/-- Carries out an invocation; gives the exit code. -/
def carryOut (i : Invocation) : IO UInt32 := do
  let config := i.globals.config
  let before ← diskAround (config.dataDirectory :: config.files ++ i.request.files)
  let ids ← freshIds
  let stamp ← stampNow
  match Session.openOn before config ids with
  | .error (fault, after) =>
    (before.changes after).forM Change.make
    IO.eprintln s!"Error: {fault.report}"
    return 1
  | .ok session =>
    let answer := session.run stamp i.request
    (before.changes answer.session.disk).forM Change.make
    IO.print answer.output
    match answer.fault with
    | none => return 0
    | some fault =>
      IO.eprintln s!"Error: {fault.report}"
      return 1

end PageBuilder.CommandLine

open PageBuilder.CommandLine in
/-- The command line program. -/
def main (words : List String) : IO UInt32 := do
  match Invocation.parse words with
  | .error fault => reportUsage fault
  | .ok invocation =>
    match invocation.inEnvironment (← environment) with
    | .error fault => reportUsage fault
    | .ok invocation => carryOut invocation
