import LineShell.Token

/-!
# Why tokens are no command

A `ParseError` is the cause, with its wording in `ParseError.message`. A `Failure` is a cause
together with the tokens from the first one that does not fit; `Failure.position` counts the
tokens before it.

Models `ParseError` of the module `error` with its messages, and the position that `parse` in
`parser` reports of a failure.
-/

namespace LineShell

/-- Why a list of tokens is no command. -/
inductive ParseError where
  | expectedCommand
  | expectedFilename (kind : RedirectKind)
  | unexpectedTrailingTokens
  deriving DecidableEq, Repr

/-- What the user is told. -/
def ParseError.message : ParseError → String
  | expectedCommand => "Parse error: Expected a command"
  | expectedFilename kind => "Parse error: Expected filename after " ++ kind.symbol
  | unexpectedTrailingTokens => "Parse error: Unexpected tokens at end of input"

/-- A cause, and the tokens from the first one that does not fit. -/
structure Failure where
  error : ParseError
  rest : List Token
  deriving DecidableEq, Repr

/-- The number of tokens before the failure. -/
def Failure.position (f : Failure) (ts : List Token) : Nat :=
  ts.length - f.rest.length

end LineShell
