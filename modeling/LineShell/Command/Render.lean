import LineShell.Command.Basic

/-!
# Commands as text

`Command.render` writes a command back as a line: words as they are, one blank between them, and
each connective with its blanks. Words are not quoted and background marks are not written, so the
line reads back as the same tree only under conditions on the tree. `Command.describe` is the
summary of a parsed line: the kind of its root, the line, and the background mark of the root.

Models the displayed forms of `Redirection`, `SimpleCommand` and `Command` in the module `ast`, and
`describe` in `shell`.
-/

namespace LineShell

/-- A redirection operator and its target. -/
def Redirection.render (r : Redirection) : String :=
  r.kind.symbol ++ " " ++ r.target

/-- The name, the arguments and the redirections of a simple command, one blank between them. -/
def SimpleCommand.render (c : SimpleCommand) : String :=
  " ".intercalate (c.argv ++ c.redirections.map Redirection.render)

namespace Command

/-- A command as a line. -/
def render : Command → String
  | simple body _ => body.render
  | node op left right _ => left.render ++ op.separator ++ right.render

/-- A line that says what a command is. -/
def describe (c : Command) : String :=
  "[" ++ c.label ++ "] " ++ c.render ++ (if c.isBackground then " &" else "")

/-- Background marks are not written. -/
@[simp] theorem render_setBackground (b : Bool) (c : Command) :
    (c.setBackground b).render = c.render := by
  cases c <;> rfl

end Command

end LineShell
