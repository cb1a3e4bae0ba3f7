import LineShell.Log
import LineShell.Path
import LineShell.Text.Blank

/-!
# Settings

The settings of a session come from environment variables; what is not set has a default. Paths
are taken as they are given, but for a `~` at the front, which stands for the home directory.

* `Settings.ofLookup`: the settings that a lookup of variables gives.
* `Settings.level`, `Settings.editMode`: the meanings of two texts.

Models `Config` of the module `config`: `from_lookup`, `get_config_dir`, `with_config_dir`,
`parse_flag` and `get_edit_mode`, and the name of the log file in `init_logger` of `log`.

Out of scope: the user database, where the home directory stands if `HOME` is not set or empty.
-/

namespace LineShell

/-- The two ways to edit a line. -/
inductive EditMode where
  | emacs
  | vi
  deriving DecidableEq, Repr

/-- What a session can be told. -/
structure Settings where
  name : String
  version : String
  configDir : Path
  theme : String
  editor : String
  historyFile : Path
  historySize : Nat
  logLevel : String
  logDir : Path
  showTokens : Bool
  deriving DecidableEq, Repr

/-! ## Values -/

/-- The largest size that can be given. -/
def maxSize : Nat := UInt64.size - 1

/-- The value of a row of decimal digits that is not empty. -/
def decimal? (ds : List Char) : Option Nat :=
  if ds ≠ [] ∧ ds.all Char.isDigit then
    some (ds.foldl (fun n d => 10 * n + (d.toNat - '0'.toNat)) 0)
  else none

/-- A size: digits, with a plus sign and white space around it allowed. -/
def size? (text : String) : Option Nat :=
  let digits :=
    match (trim text).toList with
    | '+' :: ds => ds
    | ds => ds
  (decimal? digits).filter (· ≤ maxSize)

/-- The lower case of the ASCII letters. No other character has a lower case that is one of the
letters of the words compared below, so this is enough to compare in any case. -/
def lowerAscii (text : String) : String :=
  String.ofList (text.toList.map Char.toLower)

/-- The texts that switch something on. -/
def isOn (text : String) : Bool :=
  lowerAscii (trim text) ∈ ["1", "true", "yes", "on"]

/-- A path with a `~` at its front, alone or before a slash, replaced by the home directory. If that
is not set or empty, the user database would be asked for it; the text is left as it is here. -/
def expandHome (home : Option String) (text : String) : Path :=
  match text.toList, home with
  | '~' :: rest, some dir =>
    if dir ≠ "" ∧ (rest = [] ∨ rest.head? = some '/') then ⟨dir ++ String.ofList rest⟩
    else ⟨text⟩
  | _, _ => ⟨text⟩

/-! ## Settings -/

namespace Settings

/-- The settings that hold when only the directory for all files is known. -/
def inDirectory (dir : Path) : Settings where
  name := "minish"
  version := "0.1.0"
  configDir := dir
  theme := "default"
  editor := "emacs"
  historyFile := dir.join ".minish_history"
  historySize := 1000
  logLevel := "warn"
  logDir := dir.join "logs"
  showTokens := false

/-- The directory for all files: inside the home directory, if there is one. -/
def configDirectory (home : Option String) : Path :=
  match home with
  | some dir => (Path.mk dir).join ".config/minish"
  | none => ⟨"tmp"⟩

/-- The settings that the variables give. `home` is what `~` stands for. -/
def ofLookup (home : Option String) (lookup : String → Option String) : Settings :=
  let base := inDirectory (configDirectory (lookup "HOME"))
  { base with
    theme := (lookup "MINISH_THEME").getD base.theme
    editor := (lookup "MINISH_EDITOR").getD base.editor
    historyFile := ((lookup "MINISH_HISTORY").map (expandHome home)).getD base.historyFile
    historySize := ((lookup "MINISH_HISTORY_SIZE").bind size?).getD base.historySize
    logLevel := (lookup "MINISH_LOG_LEVEL").getD base.logLevel
    logDir := ((lookup "MINISH_LOG_DIR").map (expandHome home)).getD base.logDir
    showTokens := ((lookup "MINISH_SHOW_TOKENS").map isOn).getD base.showTokens }

/-- The level that the log is filtered at. -/
def level (s : Settings) : Level :=
  .ofText s.logLevel

/-- The way to edit a line. -/
def editMode (s : Settings) : EditMode :=
  if lowerAscii s.editor = "vi" then .vi else .emacs

/-- The log file of a day. -/
def logFile (s : Settings) (date : String) : Path :=
  s.logDir.join (s.name ++ "_" ++ date ++ ".log")

end Settings

end LineShell
