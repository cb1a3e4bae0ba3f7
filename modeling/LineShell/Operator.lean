/-!
# The operators of a command line

A line holds words and symbols. A `Symbol` is a `Connective` between two commands, a redirection of
one of three `RedirectKind`s, the background mark, or a line break. `symbol` and `text` give what is
written for each; `Symbol.munch?` reads the longest symbol at the front of a text.

Models, of the module `lexer`, the operators among the kinds of tokens (`TokenKind.lexeme`) and the
part of `next_token` that reads an operator; of `ast`, `RedirectKind` with `operator`.

Headlines:
* `Symbol.munch?_eq_some`: a symbol that is read, followed by what is left, is the text.
-/

namespace LineShell

/-- What joins two commands. -/
inductive Connective where
  /-- The output of the left command feeds the right one. -/
  | pipeline
  /-- One command after the other. -/
  | sequence
  /-- The right command if the left one succeeds. -/
  | and
  /-- The right command if the left one fails. -/
  | or
  deriving DecidableEq, Repr

/-- What a redirection does with its file. -/
inductive RedirectKind where
  | input
  | output
  | append
  deriving DecidableEq, Repr

namespace Connective

/-- The written form of a connective. -/
def symbol : Connective → String
  | pipeline => "|"
  | sequence => ";"
  | and => "&&"
  | or => "||"

/-- What stands between two rendered commands: a semicolon has no blank before it. -/
def separator : Connective → String
  | pipeline => " | "
  | sequence => "; "
  | and => " && "
  | or => " || "

/-- The name of a connective in summaries. -/
def label : Connective → String
  | pipeline => "pipeline"
  | sequence => "sequence"
  | and => "and"
  | or => "or"

end Connective

namespace RedirectKind

/-- The written form of a redirection operator. -/
def symbol : RedirectKind → String
  | input => "<"
  | output => ">"
  | append => ">>"

end RedirectKind

/-- The tokens with a fixed written form. -/
inductive Symbol where
  | connective (op : Connective)
  | redirect (kind : RedirectKind)
  | background
  | newline
  deriving DecidableEq, Repr

namespace Symbol

/-- The written form of a symbol. -/
def text : Symbol → String
  | connective op => op.symbol
  | redirect kind => kind.symbol
  | background => "&"
  | newline => "\n"

/-- The longest symbol at the front of a text, and what follows it. -/
def munch? : List Char → Option (Symbol × List Char)
  | '|' :: '|' :: cs => some (connective .or, cs)
  | '|' :: cs => some (connective .pipeline, cs)
  | '&' :: '&' :: cs => some (connective .and, cs)
  | '&' :: cs => some (background, cs)
  | '>' :: '>' :: cs => some (redirect .append, cs)
  | '>' :: cs => some (redirect .output, cs)
  | '<' :: cs => some (redirect .input, cs)
  | ';' :: cs => some (connective .sequence, cs)
  | '\n' :: cs => some (newline, cs)
  | _ => none

/-- The characters that symbols are made of, the line break apart. -/
def isMark (c : Char) : Bool :=
  c == '|' || c == '&' || c == ';' || c == '<' || c == '>'

/-- A symbol that is read, followed by what is left, is the text. -/
theorem munch?_eq_some {cs rest : List Char} {s : Symbol} (h : munch? cs = some (s, rest)) :
    s.text.toList ++ rest = cs := by
  unfold munch? at h
  split at h <;> simp at h <;> obtain ⟨rfl, rfl⟩ := h <;> rfl

/-- No symbol is empty. -/
theorem length_text_pos (s : Symbol) : 0 < s.text.toList.length := by
  cases s with
  | connective op => cases op <;> decide
  | redirect kind => cases kind <;> decide
  | background => decide
  | newline => decide

/-- A text has no symbol at its front exactly if it starts with another character. -/
theorem munch?_cons_eq_none_iff {c : Char} {cs : List Char} :
    munch? (c :: cs) = none ↔ isMark c = false ∧ c ≠ '\n' := by
  unfold munch?
  split <;> simp_all [isMark]

end Symbol

end LineShell
