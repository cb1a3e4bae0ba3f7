import LineShell.Session.Report

/-!
# Sessions

A session is a function of what it finds (`Host`): the environment variables, the files under the
current directory, the bytes of the standard input and the day. `Host.run` gives what it leaves
(`Outcome`): the exit status, both outputs and the files.

A session goes through these steps:

1. The file of variables is read, and the variables give the settings. A value that no variable can
   have breaks the session off.
2. `Host.startUp` makes the directories of the history and of the log and opens the log file. If one
   of these fails, the session ends here with the cause.
3. The history is loaded, the user is greeted, the dialogue is led (`Manner.converse`), and the
   history is saved. Neither loading nor saving can end the session. A dialogue that breaks off ends
   it, and nothing is saved.

Models `main`: `Config.new`, `init_logger` and `Shell.run`.

Out of scope: the clock and the time zone (the day is part of the host), signals, outputs that are
closed, files above the current directory in the search for the file of variables, and the text that
a break-off leaves on the standard error: `StartFailure.stderr` and `breakText` stand for it.
-/

namespace LineShell

/-- What a session finds. -/
structure Host where
  inherited : Variables
  files : FileTree
  input : Bytes
  /-- The day, as it stands in the name of the log file. -/
  date : String

/-- What a session leaves. -/
structure Outcome where
  exitStatus : Nat
  stdout : String
  stderr : String
  files : FileTree

/-- The exit status of a session that breaks off. -/
def Host.breakStatus : Nat := 101

/-- Why a session does not start. -/
inductive StartFailure where
  /-- The file of variables gives a variable a value that it cannot have. -/
  | unsettable
  /-- One of the directories or the log file cannot be made or opened. -/
  | files (cause : FileError)
  deriving DecidableEq, Repr

namespace StartFailure

def exitStatus : StartFailure → Nat
  | .unsettable => Host.breakStatus
  | .files _ => 1

/-- What is written to the standard error. -/
def stderr : StartFailure → String
  | .unsettable => "a value has a NUL character in it\n"
  | .files cause => "Error: " ++ cause.debug ++ "\n"

end StartFailure

namespace Host

/-- What comes of reading the file of variables, if there is one in the current directory. The
directories above it would be searched next; they are not among the files of a host, and are taken
to hold none. -/
def loadedVariables (host : Host) : Variables.Loaded :=
  match host.files.read variableFile with
  | .ok content => host.inherited.loadFile content
  | .error _ => ⟨host.inherited, false⟩

/-- The variables, with those of the file. -/
def environment (host : Host) : Variables :=
  host.loadedVariables.values

def settings (host : Host) : Settings :=
  host.environment.settings

def manner (host : Host) : Manner :=
  host.environment.manner

/-! ## Start -/

/-- The files with the directory that holds the history file, if its path names one. -/
def makeHistoryDirectory (host : Host) : FileTree × Except FileError Unit :=
  match host.settings.historyFile.parent? with
  | some dir => host.files.makeDirectories dir
  | none => (host.files, .ok ())

/-- The files with the directories of the history and of the log and the log file, and where the
log file is. Directories that were made before a failure stay. Where the variables cannot be set,
nothing is made. -/
def startUp (host : Host) : FileTree × Except StartFailure Location :=
  if host.loadedVariables.brokenOff then (host.files, .error .unsettable)
  else
    match host.makeHistoryDirectory with
    | (files, .error e) => (files, .error (.files e))
    | (files, .ok ()) =>
      match files.makeDirectories host.settings.logDir with
      | (files, .error e) => (files, .error (.files e))
      | (files, .ok ()) =>
        match files.openForWriting (host.settings.logFile host.date) with
        | .error e => (files, .error (.files e))
        | .ok (log, files) => (files, .ok log)

/-! ## The history file -/

/-- The content of the history file. -/
def readHistory (s : Settings) (files : FileTree) : Except String Bytes :=
  match files.read s.historyFile with
  | .ok content => .ok content
  | .error e => .error e.sentence

/-- The files with the history saved, if there is something to save. -/
def saveHistory (s : Settings) (h : History) (files : FileTree) :
    FileTree × Except String Unit :=
  match h.save? with
  | none => (files, .ok ())
  | some content =>
    match files.openForWriting s.historyFile with
    | .ok (loc, files) => (files.write loc content, .ok ())
    | .error e => (files, .error e.sentence)

/-! ## The whole session -/

/-- What comes after a dialogue that was not broken off: the history is saved, and the user is
bidden farewell. The result is what is said, and the files. -/
def finish (s : Settings) (m : Manner) (h : History) (files : FileTree) (log : Location) :
    List Event × FileTree :=
  let (files, saved) := saveHistory s h files
  let closing := saveEvent saved :: farewellEvents s m
  (closing, files.append log (logOf s.level closing))

/-- The session after its start, with the log at the given location. All that is said before the
history file is read or written is in the log by then. -/
def runFrom (host : Host) (files : FileTree) (log : Location) : Outcome :=
  let s := host.settings
  let m := host.manner
  let opening := openingEvents s
  let files := files.append log (logOf s.level opening)
  let (loading, history) := loadHistory s (readHistory s files)
  let dialogue := m.converse history (linesOf host.input)
  let middle := loading ++ greetingEvents s m ++ dialogue.events
  let files := files.append log (logOf s.level middle)
  let (closing, files) :=
    if dialogue.brokenOff then ([], files) else finish s m dialogue.history files log
  let events := opening ++ middle ++ closing
  { exitStatus := if dialogue.brokenOff then breakStatus else 0
    stdout := stdoutOf events
    stderr := stderrOf s.level events
    files }

/-- The session. -/
def run (host : Host) : Outcome :=
  match host.startUp with
  | (files, .error failure) =>
    { exitStatus := failure.exitStatus, stdout := "", stderr := failure.stderr, files }
  | (files, .ok log) => host.runFrom files log

end Host

end LineShell
