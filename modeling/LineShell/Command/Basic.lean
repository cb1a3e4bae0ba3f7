import LineShell.Operator

/-!
# Command trees

A line that parses is a `Command`: a tree whose leaves are simple commands (a name, its arguments,
its redirections) and whose inner nodes are connectives. Any node may carry the background mark;
`setBackground` puts it on the root.

Models, of the module `ast`, `Command`, `CommandKind`, `SimpleCommand` and `Redirection` with their
constructors, `argv`, `left`, `right`, `as_simple`, `label`, `is_background` and `set_background`.
-/

namespace LineShell

/-- One redirection of a simple command. -/
structure Redirection where
  kind : RedirectKind
  target : String
  deriving DecidableEq, Repr

/-- A name with its arguments and redirections, each in source order. -/
structure SimpleCommand where
  name : String
  arguments : List String
  redirections : List Redirection
  deriving DecidableEq, Repr

/-- A tree of commands. -/
inductive Command where
  | simple (body : SimpleCommand) (background : Bool)
  | node (op : Connective) (left right : Command) (background : Bool)
  deriving DecidableEq, Repr

namespace SimpleCommand

/-- The name, followed by the arguments. -/
def argv (c : SimpleCommand) : List String :=
  c.name :: c.arguments

end SimpleCommand

namespace Command

/-- The node that joins two commands; it is not in the background itself. -/
def join (op : Connective) (left right : Command) : Command :=
  node op left right false

/-- Is the root marked as running in the background? -/
def isBackground : Command → Bool
  | simple _ background => background
  | node _ _ _ background => background

/-- The same tree with the background mark of the root set to `background`. -/
def setBackground (background : Bool) : Command → Command
  | simple body _ => simple body background
  | node op left right _ => node op left right background

/-- The kind of the root, in a word. -/
def label : Command → String
  | simple _ _ => "simple"
  | node op _ _ _ => op.label

/-- The left operand of the root, if it has operands. -/
def left? : Command → Option Command
  | simple _ _ => none
  | node _ left _ _ => some left

/-- The right operand of the root, if it has operands. -/
def right? : Command → Option Command
  | simple _ _ => none
  | node _ _ right _ => some right

/-- The simple command at the root, if it is one. -/
def simple? : Command → Option SimpleCommand
  | simple body _ => some body
  | node _ _ _ _ => none

@[simp] theorem isBackground_setBackground (b : Bool) (c : Command) :
    (c.setBackground b).isBackground = b := by
  cases c <;> rfl

@[simp] theorem setBackground_isBackground (c : Command) :
    c.setBackground c.isBackground = c := by
  cases c <;> rfl

end Command

end LineShell
