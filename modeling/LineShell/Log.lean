import LineShell.Text.ControlSequence

/-!
# Log levels and records

A `Record` is one line for the log, with the level it is written at and who writes it. A setting
of the level is a `Level` too; `Level.off` lets nothing pass. Records of the line editor underneath
pass at every setting as long as they are warnings or worse (`Record.passes`).

A record is written without controls (`Record.lineAfter`). If a string is left open in its text,
that takes away the end of the line too.

Models, of the module `log`, `parse_level` and the format of a line and the filters that
`init_logger` sets.

Out of scope: the number of the process and the time of a record, which `line` leaves out.
-/

namespace LineShell

/-- How much is logged, from nothing to everything. -/
inductive Level where
  | off
  | error
  | warn
  | info
  | debug
  | trace
  deriving DecidableEq, Repr

namespace Level

/-- The place of a level; each one lets pass what those before it do. -/
def rank : Level → Nat
  | off => 0
  | error => 1
  | warn => 2
  | info => 3
  | debug => 4
  | trace => 5

def name : Level → String
  | off => "OFF"
  | error => "ERROR"
  | warn => "WARN"
  | info => "INFO"
  | debug => "DEBUG"
  | trace => "TRACE"

/-- The level with the given name, in any mix of ASCII upper and lower case; any other text means
`info`. -/
def ofText (text : String) : Level :=
  let lower := text.toList.map Char.toLower
  if lower = "off".toList then off
  else if lower = "error".toList then error
  else if lower = "warn".toList then warn
  else if lower = "debug".toList then debug
  else if lower = "trace".toList then trace
  else info

end Level

/-- Who writes a record. -/
inductive Origin where
  | shell
  | lineEditor
  deriving DecidableEq, Repr

/-- One line for the log. -/
structure Record where
  origin : Origin
  level : Level
  text : String
  deriving DecidableEq, Repr

namespace Record

def error (text : String) : Record := ⟨.shell, .error, text⟩
def warn (text : String) : Record := ⟨.shell, .warn, text⟩
def debug (text : String) : Record := ⟨.shell, .debug, text⟩

/-- Does the record pass when the level is set to `setting`? -/
def passes (setting : Level) (r : Record) : Bool :=
  match r.origin with
  | .shell => decide (r.level.rank ≤ setting.rank)
  | .lineEditor => decide (r.level.rank ≤ Level.warn.rank)

/-- A record as a line, after the given mark of the process and with the given text for the time. -/
def lineAfter (process time : String) (r : Record) : String :=
  withoutControls (process ++ "[" ++ r.level.name ++ "] " ++ time ++ r.text ++ "\n")

/-- A record as a line, without the number of the process and the time. -/
def line (r : Record) : String :=
  r.lineAfter "[PID]" ""

end Record

end LineShell
