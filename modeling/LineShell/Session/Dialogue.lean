import LineShell.Command.Debug
import LineShell.Command.Render
import LineShell.History
import LineShell.Session.Event
import LineShell.Text.Cluster
import LineShell.Theme

/-!
# The dialogue

A session answers the lines of its input one after the other. `answer` is the answer to one line:
what is shown, what goes to the history, and how the session goes on. `converse` is the dialogue
over all lines, up to the one that stops it or the end of the input.

A line is the text that is left after all backspaces have had their effect. A line of white space is
skipped, three words are the session's own, and every other line is parsed and summed up. A line
whose backspaces would cut a character in two breaks the session off.

Models, of the module `shell`, `run_loop`, `handle_input`, `builtin` and the help text, over an
input that is not a terminal.

Out of scope: keys and completion, and the text that is left on the standard error by a session that
breaks off: `breakText` stands for it.
-/

namespace LineShell

/-- What the answers depend on. -/
structure Manner where
  theme : Theme
  /-- Is every token of a line shown? -/
  showTokens : Bool
  /-- Is the prompt written before each line? -/
  showPrompt : Bool

/-- How a session goes on after a line. -/
inductive Sequel where
  /-- The next line is read. -/
  | nextLine
  /-- The session comes to its end. -/
  | leave
  /-- The session breaks off at once. -/
  | breakOff
  deriving DecidableEq, Repr

/-- The answer to a line. -/
structure Answer where
  events : List Event
  /-- The line as it goes to the history, if it does. -/
  entry : Option String
  sequel : Sequel

/-- What a dialogue leaves. -/
structure Dialogue where
  events : List Event
  history : History
  /-- Did the session break off? -/
  brokenOff : Bool

/-- The words that a session understands. -/
def helpText : String :=
  "Available commands:\n" ++
  "  help - Display this help message\n" ++
  "  exit - Exit the shell (also: quit)\n" ++
  "Any other line is parsed and its command tree is printed."

/-- What is said when a session breaks off. -/
def breakText : String :=
  "a backspace cuts a character in two"

/-- What is said about a line that is not text. -/
def malformedText : String :=
  "stream did not contain valid UTF-8"

namespace Manner

/-- A line on the standard error about something wrong. -/
def complaint (m : Manner) (text : String) : Event :=
  .errLine (m.theme.errorSymbol ++ " " ++ m.theme.showError text)

/-- The tokens of a line, if they are to be shown. -/
def tokenEvents (m : Manner) (line : String) : List Event :=
  if m.showTokens then
    (tokenize line).map fun t => .outLine ("  " ++ m.theme.showWarning t.display)
  else []

/-- The outcome of parsing a line. -/
def parseEvents (m : Manner) (line : String) : List Event :=
  let ts := tokenize line
  match parseTokens ts with
  | .ok c =>
    [.record (.debug ("解析成功: " ++ c.debug)),
     .record (.debug ("解析命令: " ++ c.debug)),
     .outLine (m.theme.successSymbol ++ " " ++ m.theme.showSuccess c.describe),
     .outLine (m.theme.showWarning "Command execution is not implemented")]
  | .error f =>
    [.record (.debug
      ("解析失败 (token " ++ toString (f.position ts) ++ "): " ++ f.error.message)),
     m.complaint f.error.message]

/-- The answer to a line of text. -/
def answerText (m : Manner) (line : String) : Answer :=
  let word := trim line
  if word = "" then ⟨[], none, .nextLine⟩
  else if word = "exit" ∨ word = "quit" then ⟨[], some line, .leave⟩
  else if word = "help" then ⟨[.outLine helpText], some line, .nextLine⟩
  else ⟨m.tokenEvents line ++ m.parseEvents line, some line, .nextLine⟩

/-- The answer to a line of the input. -/
def answer (m : Manner) (bytes : Bytes) : Answer :=
  match decode? bytes with
  | some text =>
    match eraseBackspaces? text.toList with
    | some line => m.answerText (String.ofList line)
    | none => ⟨[.errLine breakText], none, .breakOff⟩
  | none =>
    ⟨[.record (.error ("发生错误: " ++ malformedText)), m.complaint malformedText], none, .nextLine⟩

/-- What is shown before a line is read. -/
def promptEvents (m : Manner) : List Event :=
  if m.showPrompt then [.out m.theme.prompt] else []

/-- What is shown at the end of the input. -/
def endEvents : List Event :=
  [.record (.warn "接收到 EOF 信号，退出..."), .outLine ""]

/-- The dialogue over the lines of an input. -/
def converse (m : Manner) (h : History) : List Bytes → Dialogue
  | [] => ⟨m.promptEvents ++ endEvents, h, false⟩
  | line :: more =>
    let a := m.answer line
    let h := a.entry.elim h h.add
    match a.sequel with
    | .leave => ⟨m.promptEvents ++ a.events, h, false⟩
    | .breakOff => ⟨m.promptEvents ++ a.events, h, true⟩
    | .nextLine =>
      let rest := m.converse h more
      ⟨m.promptEvents ++ (a.events ++ rest.events), rest.history, rest.brokenOff⟩

end Manner

end LineShell
