import LineShell.Operator

/-!
# Tokens

A `Token` is what the parser sees of a line: a word with its value, a symbol, or the end of the
input. `kindName` is the name of its class, and `display` its one-line form for listings.

Models `Token` and `TokenKind` of the module `lexer`: `name`, `value`, `is_word`, `is_redirect`,
`is_operator` and the displayed form.
-/

namespace LineShell

/-- What the parser sees of a line, piece by piece. -/
inductive Token where
  | word (value : String)
  | symbol (mark : Symbol)
  | endOfInput
  deriving DecidableEq, Repr

namespace Token

/-- The name of a token's class. -/
def kindName : Token → String
  | word _ => "WORD"
  | symbol (.connective .pipeline) => "PIPE"
  | symbol (.connective .sequence) => "SEMICOLON"
  | symbol (.connective .and) => "AND_OPERATOR"
  | symbol (.connective .or) => "OR_OPERATOR"
  | symbol (.redirect .input) => "REDIRECT_IN"
  | symbol (.redirect .output) => "REDIRECT_OUT"
  | symbol (.redirect .append) => "REDIRECT_APPEND"
  | symbol .background => "BACKGROUND"
  | symbol .newline => "NEWLINE"
  | endOfInput => "END_OF_INPUT"

/-- The value of a word; the other tokens have the empty value. -/
def value : Token → String
  | word v => v
  | _ => ""

/-- The written form of a token that has a fixed one. -/
def fixedText? : Token → Option String
  | symbol mark => some mark.text
  | _ => none

def isWord : Token → Bool
  | word _ => true
  | _ => false

def isRedirect : Token → Bool
  | symbol (.redirect _) => true
  | _ => false

/-- Does the token join two commands? -/
def isConnective : Token → Bool
  | symbol (.connective _) => true
  | _ => false

/-- The form of a token in a listing; the value stands as it is. -/
def display (t : Token) : String :=
  "Token\x7btype=" ++ t.kindName ++ ", value='" ++ t.value ++ "'\x7d"

end Token

end LineShell
