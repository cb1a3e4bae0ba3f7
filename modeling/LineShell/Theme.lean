import LineShell.Settings

/-!
# Colours and themes

A `Colour` is a code of the terminal; `Colour.paint` puts a text between the code and a reset. A
reset inside the text would end the colour too early, so the code is given again after it. A
`Palette` says whether colours are shown at all. A `Theme` holds every fixed text of a session in
its colour, and the colours for the texts that vary.

Models `Theme` of the module `theme` with `default` and `load_theme`, and the colours of the library
that paints them.
-/

namespace LineShell

/-! ## Colours -/

/-- The colours that themes use. -/
inductive Colour where
  | red
  | yellow
  | magenta
  | brightRed
  | brightGreen
  | brightYellow
  | brightBlue
  | brightMagenta
  | brightCyan
  deriving DecidableEq, Repr

/-- Are colours shown? -/
inductive Palette where
  | plain
  | coloured
  deriving DecidableEq, Repr

namespace Colour

/-- The number of a colour in a terminal code. -/
def number : Colour → String
  | red => "31"
  | yellow => "33"
  | magenta => "35"
  | brightRed => "91"
  | brightGreen => "92"
  | brightYellow => "93"
  | brightBlue => "94"
  | brightMagenta => "95"
  | brightCyan => "96"

/-- The code that switches a colour on. -/
def code (c : Colour) : List Char :=
  '\x1b' :: '[' :: (c.number.toList ++ ['m'])

/-- The code that ends all colours. -/
def reset : List Char := ['\x1b', '[', '0', 'm']

/-- The text with `code` added after each reset. -/
def renew (code : List Char) : List Char → List Char
  | '\x1b' :: '[' :: '0' :: 'm' :: cs => reset ++ code ++ renew code cs
  | c :: cs => c :: renew code cs
  | [] => []

/-- The text in a colour, if colours are shown. -/
def paint (palette : Palette) (c : Colour) (text : String) : String :=
  match palette with
  | .plain => text
  | .coloured => String.ofList (c.code ++ renew c.code text.toList ++ reset)

end Colour

/-! ## Themes -/

/-- The fixed texts of a session, as they are shown, and the colours of the others. -/
structure Theme where
  palette : Palette
  prompt : String
  successSymbol : String
  errorSymbol : String
  welcome : String
  help : String
  farewell : String
  errorColour : Colour
  successColour : Colour
  warningColour : Colour
  deriving DecidableEq, Repr

namespace Theme

/-- The theme that is used unless another one is chosen. -/
def standard (palette : Palette) : Theme where
  palette
  prompt := Colour.brightCyan.paint palette "minish> "
  successSymbol := Colour.brightGreen.paint palette "✓"
  errorSymbol := Colour.red.paint palette "✗"
  welcome := Colour.brightGreen.paint palette "minish"
  help := Colour.yellow.paint palette "Type 'help' for a list of commands or 'exit' to quit."
  farewell := Colour.brightBlue.paint palette "Goodbye!"
  errorColour := .brightRed
  successColour := .brightGreen
  warningColour := .yellow

/-- The theme for dark terminals. -/
def dark (palette : Palette) : Theme :=
  { standard palette with
    prompt := Colour.brightMagenta.paint palette "minish ➤ "
    successSymbol := Colour.magenta.paint palette "✓"
    errorSymbol := Colour.red.paint palette "✗"
    farewell := Colour.brightMagenta.paint palette "Goodbye!"
    errorColour := .red
    successColour := .magenta
    warningColour := .brightYellow }

def showError (t : Theme) (text : String) : String :=
  t.errorColour.paint t.palette text

def showSuccess (t : Theme) (text : String) : String :=
  t.successColour.paint t.palette text

def showWarning (t : Theme) (text : String) : String :=
  t.warningColour.paint t.palette text

/-- The theme with the given name, which welcomes with the name and the version of the program; an
unknown name means the standard theme. -/
def named (palette : Palette) (theme : String) (program : String) (version : String) : Theme :=
  let t := if theme = "dark" then dark palette else standard palette
  { t with welcome := t.showSuccess (program ++ " v" ++ version) }

end Theme

end LineShell
