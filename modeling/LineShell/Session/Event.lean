import LineShell.Log
import LineShell.Text.Bytes

/-!
# What a session shows

A session is a row of `Event`s: texts for the standard output, texts for the standard error, and
records for the log. Records go to the standard error and to the log file, as far as the level lets
them pass; the row itself holds all of them, whatever the level.

Models what `MultiWriter` of the module `log` and the prints of `shell` write, and where.
-/

namespace LineShell

/-- One thing that a session shows. -/
inductive Event where
  /-- A text for the standard output. -/
  | out (text : String)
  /-- A text for the standard error. -/
  | err (text : String)
  /-- A record for the log. -/
  | record (r : Record)
  deriving DecidableEq, Repr

namespace Event

/-- A line for the standard output. -/
def outLine (text : String) : Event :=
  out (text ++ "\n")

/-- A line for the standard error. -/
def errLine (text : String) : Event :=
  err (text ++ "\n")

/-- What an event writes to the standard output. -/
def stdout : Event → String
  | out text => text
  | _ => ""

/-- What an event writes to the log at the given level. -/
def logged (level : Level) : Event → String
  | record r => if r.passes level then r.line else ""
  | _ => ""

/-- What an event writes to the standard error at the given level. -/
def stderr (level : Level) : Event → String
  | out _ => ""
  | err text => text
  | record r => if r.passes level then r.line else ""

end Event

/-- What a row of events writes to the standard output. -/
def stdoutOf (es : List Event) : String :=
  String.join (es.map Event.stdout)

/-- What a row of events writes to the standard error. -/
def stderrOf (level : Level) (es : List Event) : String :=
  String.join (es.map (Event.stderr level))

/-- What a row of events writes to the log file. -/
def logOf (level : Level) (es : List Event) : Bytes :=
  encode (String.join (es.map (Event.logged level)))

end LineShell
