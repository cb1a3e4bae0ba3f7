import LineShell.FileTree
import LineShell.Session.Dialogue
import LineShell.VariableFile

/-!
# What the variables decide

The environment variables give the settings of a session, whether colours are shown, and whether the
prompt is written; from these come the theme and the `Manner` of its answers.

Models how `Config.new` looks variables up, when colours are shown, and on which terminals the line
editor writes its prompt.
-/

namespace LineShell

/-- The file that variables are read from, if it is there. -/
def variableFile : Path := ⟨".env.development"⟩

namespace Variables

/-- The settings. A `~` in a path stands for the home directory. -/
def settings (vs : Variables) : Settings :=
  .ofLookup (vs.value? "HOME") (vs.value? ·)

/-- Colours are shown if a variable forces them; the value `0` does not. -/
def palette (vs : Variables) : Palette :=
  match vs.value? "CLICOLOR_FORCE" with
  | some value => if value = "0" then .plain else .coloured
  | none => .plain

/-- The terminals that cannot edit a line; there the prompt is written before each one. -/
def simpleTerminals : List String := ["dumb", "cons25", "emacs"]

def hasSimpleTerminal (vs : Variables) : Bool :=
  match vs.value? "TERM" with
  | some term => lowerAscii term ∈ simpleTerminals
  | none => false

/-- What the answers of a session depend on. -/
def manner (vs : Variables) : Manner where
  theme := .named vs.palette vs.settings.theme vs.settings.name vs.settings.version
  showTokens := vs.settings.showTokens
  showPrompt := vs.hasSimpleTerminal

end Variables

end LineShell
