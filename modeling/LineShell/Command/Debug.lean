import LineShell.Command.Parser
import LineShell.Text.Literal

/-!
# The debug form

The debug form shows a value with the names of all its parts: a record is its name and its fields
in braces, a list is in brackets, a text is a literal. Unlike the rendered line it shows every
background mark and every word exactly, so it tells any two commands apart.

Models the debug forms that are derived for `Command`, its parts and `ParseError`, on one line.

Out of scope: the form over several lines.
-/

namespace LineShell

/-- A record with its named fields. -/
def debugRecord (name : String) (fields : List (String × String)) : String :=
  name ++ " \x7b " ++ ", ".intercalate (fields.map fun f => f.1 ++ ": " ++ f.2) ++ " \x7d"

/-- A name applied to its arguments. -/
def debugCall (name : String) (arguments : List String) : String :=
  name ++ "(" ++ ", ".intercalate arguments ++ ")"

def debugList (items : List String) : String :=
  "[" ++ ", ".intercalate items ++ "]"

def debugBool (b : Bool) : String :=
  if b then "true" else "false"

def RedirectKind.debug : RedirectKind → String
  | input => "Input"
  | output => "Output"
  | append => "Append"

def Redirection.debug (r : Redirection) : String :=
  debugRecord "Redirection" [("kind", r.kind.debug), ("target", literal r.target)]

def SimpleCommand.debug (c : SimpleCommand) : String :=
  debugRecord "SimpleCommand"
    [("name", literal c.name),
     ("arguments", debugList (c.arguments.map literal)),
     ("redirections", debugList (c.redirections.map Redirection.debug))]

def Connective.debugName : Connective → String
  | pipeline => "Pipeline"
  | sequence => "Sequence"
  | and => "LogicalAnd"
  | or => "LogicalOr"

/-- The debug form of a node, given that of its kind. -/
def debugNode (kind : String) (background : Bool) : String :=
  debugRecord "Command" [("kind", kind), ("background", debugBool background)]

/-- The debug form of a command. -/
def Command.debug : Command → String
  | simple body background => debugNode (debugCall "Simple" [body.debug]) background
  | node op left right background =>
    debugNode (debugCall op.debugName [left.debug, right.debug]) background

/-- The debug form of a cause of failure. -/
def ParseError.debug : ParseError → String
  | expectedCommand => "ExpectedCommand"
  | expectedFilename kind => debugCall "ExpectedFilename" [kind.debug]
  | unexpectedTrailingTokens => "UnexpectedTrailingTokens"

end LineShell
