import LineShell.Session
import Std.Time

/-!
# The program

The outer layer asks the system for the variables, the files, the input and the time, lets the
library decide, and shows the events that it gives. Lines are read and answered one by one.

Models the program as it is run. All that is decided is decided in `Session`; no theorem is about
this layer.
-/

namespace LineShell.Program

/-! ## What the system says -/

/-- The environment variables. -/
def environment : IO Variables := do
  let entries := (← IO.FS.readBinFile "/proc/self/environ").data.toList.splitOn 0
  return entries.filterMap fun entry =>
    (decode? entry).map fun text =>
      let cs := text.toList
      (String.ofList (cs.takeWhile (· ≠ '=')), String.ofList ((cs.dropWhile (· ≠ '=')).drop 1))

/-- What comes of reading the file of variables, if there is one. -/
def loadedVariables : IO Variables.Loaded := do
  let vs ← environment
  try
    return vs.loadFile (← IO.FS.readBinFile variableFile.text).data.toList
  catch _ => return ⟨vs, false⟩

/-- The number of the process. -/
def processNumber : IO String := do
  return String.ofList ((← IO.FS.readFile "/proc/self/stat").toList.takeWhile Char.isDigit)

/-- Is it the number of the cause? The system gives it with or without a sign. -/
def isCode (code : UInt32) (e : FileError) : Bool :=
  code == UInt32.ofNat e.code || code == 0 - UInt32.ofNat e.code

/-- The cause of a failure, if it is one of those that the library knows. -/
def fileError? (e : IO.Error) : Option FileError :=
  match e with
  | .noFileOrDirectory _ _ _ => some .notFound
  | .alreadyExists _ _ _ => some .alreadyExists
  | .inappropriateType _ code _ =>
    if isCode code .notADirectory then some .notADirectory else some .isADirectory
  | .invalidArgument _ code _ => if isCode code .nameTooLong then some .nameTooLong else none
  | _ => none

/-- The result of an action, or the cause of its failure in a sentence. -/
def orSentence {α : Type} (action : IO α) : IO (Except String α) := do
  try
    return .ok (← action)
  catch e => return .error (((fileError? e).map FileError.sentence).getD (toString e))

/-! ## Showing events -/

/-- Where the log goes, and what is let through. -/
structure LogFile where
  level : Level
  process : String
  handle : IO.FS.Handle

/-- A record as a line, with the process and the time. -/
def LogFile.line (log : LogFile) (r : Record) : IO String := do
  let time := (← Std.Time.PlainDateTime.now).format "yyyy-MM-dd HH:mm:ss"
  return r.lineAfter ("[PID:" ++ log.process ++ "]") (time ++ " - ")

def LogFile.perform (log : LogFile) (event : Event) : IO Unit := do
  match event with
  | .out text =>
    let stdout ← IO.getStdout
    stdout.putStr text
    stdout.flush
  | .err text => (← IO.getStderr).putStr text
  | .record r =>
    if r.passes log.level then
      let line ← log.line r
      (← IO.getStderr).putStr line
      log.handle.putStr line
      log.handle.flush

def LogFile.performAll (log : LogFile) (events : List Event) : IO Unit :=
  events.forM log.perform

/-! ## The session -/

/-- The next line of the input; `before` is its start, last byte first. -/
partial def readLine (input : IO.FS.Stream) (before : Bytes) : IO (Option Bytes) := do
  let chunk ← input.read 1
  match chunk.data.toList with
  | [] => return if before = [] then none else some before.reverse
  | b :: _ =>
    if b = lineFeed then return some (dropReturn before.reverse) else readLine input (b :: before)

/-- The dialogue over the lines of the input. The result is the history after it, or nothing if it
breaks off. -/
partial def converse (log : LogFile) (m : Manner) (h : History) : IO (Option History) := do
  log.performAll m.promptEvents
  match ← readLine (← IO.getStdin) [] with
  | none =>
    log.performAll Manner.endEvents
    return some h
  | some line =>
    let a := m.answer line
    log.performAll a.events
    let h := a.entry.elim h h.add
    match a.sequel with
    | .nextLine => converse log m h
    | .leave => return some h
    | .breakOff => return none

def makeDirectories (dir : Path) : IO Unit := do
  if dir.text ≠ "" then IO.FS.createDirAll dir.text

/-- The directories and the log file. -/
def startUp (s : Settings) : IO LogFile := do
  match s.historyFile.parent? with
  | some dir => makeDirectories dir
  | none => pure ()
  makeDirectories s.logDir
  let day := (← Std.Time.PlainDateTime.now).format "yyyy-MM-dd"
  let handle ← IO.FS.Handle.mk (s.logFile day).text .append
  return { level := s.level, process := ← processNumber, handle }

/-- The session after its start; the result is its status. -/
def lead (log : LogFile) (s : Settings) (m : Manner) : IO UInt32 := do
  log.performAll (openingEvents s)
  let found ← orSentence do return (← IO.FS.readBinFile s.historyFile.text).data.toList
  let (loading, history) := loadHistory s found
  log.performAll (loading ++ greetingEvents s m)
  match ← converse log m history with
  | none => return UInt32.ofNat Host.breakStatus
  | some history =>
    let saved ← orSentence do
      match history.save? with
      | none => pure ()
      | some content => IO.FS.writeBinFile s.historyFile.text ⟨content.toArray⟩
    log.performAll (saveEvent saved :: farewellEvents s m)
    return 0

end LineShell.Program

open LineShell LineShell.Program

/-- The program; its status is 1 if the session cannot start. -/
def main : IO UInt32 := do
  let loaded ← loadedVariables
  if loaded.brokenOff then
    (← IO.getStderr).putStr StartFailure.unsettable.stderr
    return UInt32.ofNat StartFailure.unsettable.exitStatus
  let vs := loaded.values
  try
    let log ← startUp vs.settings
    lead log vs.settings vs.manner
  catch e =>
    let cause := ((fileError? e).map FileError.debug).getD (toString e)
    (← IO.getStderr).putStr ("Error: " ++ cause ++ "\n")
    return 1
