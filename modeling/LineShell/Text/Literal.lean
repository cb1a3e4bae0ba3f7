import LineShell.Text.Concealed

/-!
# Text in quotes

`literal` writes a text between double quotes so that every character can be told: the quote, the
backslash and four controls have short escapes, and the other characters without a shape of their
own are written by code point.

Models the debug form of a string, with `concealed` for what it escapes.
-/

namespace LineShell

/-- The code point of a character in lower-case hexadecimal digits, without leading zeros. -/
def codeEscape (c : Char) : List Char :=
  ['\\', 'u', '\x7b'] ++ Nat.toDigits 16 c.toNat ++ ['\x7d']

/-- A character inside a literal. -/
def escapeChar (c : Char) : List Char :=
  if c = '"' then ['\\', '"']
  else if c = '\\' then ['\\', '\\']
  else if c = '\t' then ['\\', 't']
  else if c = '\n' then ['\\', 'n']
  else if c = '\r' then ['\\', 'r']
  else if c = '\x00' then ['\\', '0']
  else if concealed.contains c then codeEscape c
  else [c]

/-- A text between double quotes. -/
def literal (s : String) : String :=
  String.ofList ('"' :: (s.toList.flatMap escapeChar ++ ['"']))

end LineShell
