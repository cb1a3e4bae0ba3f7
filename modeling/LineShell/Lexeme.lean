import LineShell.Token

/-!
# Cutting a text into lexemes

A text is a row of lexemes with blanks between them. A `Lexeme` is a symbol, an unquoted word or a
quoted span; `text` is exactly what it covers, and `token` is what it means. Reading is lenient at
the end of the text: a quoted span without its closing quote, and a backslash with nothing after
it, are accepted.

* `Lexeme.next?` reads one lexeme, the longest at its place, and leaves the rest of the text.
* `lexemes` reads them all, `tokens` and `tokenize` are their meanings and the end of the input.
* `nextToken` is one step of `tokens`; at the end it gives the end of the input again and again.

Models `Lexer` of the module `lexer`: `next_token`, `tokenize`, `skip_whitespace`, `read_word` and
`read_quoted_string`. The state of the lexer is the text that is left.

Headlines:
* **`next?_text`**: what is skipped, what is read and what is left make up the text.
* **`next?_length_lt`**: every lexeme takes at least one character.
* **`tokens_eq_nextToken`**: stepping and reading all at once agree.
-/

namespace LineShell

/-! ## Characters -/

/-- Blanks separate tokens; a line break is a token of its own. -/
def isBlank (c : Char) : Bool :=
  c == ' ' || c == '\t' || c == '\r' || c == '\x0b' || c == '\x0c'

/-- The characters that end an unquoted word, unless a backslash stands before them. -/
def endsWord (c : Char) : Bool :=
  isBlank c || c == '\n' || Symbol.isMark c

def isQuote (c : Char) : Bool :=
  c == '\'' || c == '"'

/-! ## Words -/

/-- The unquoted word at the front of a text, as written, and what follows it. -/
def spanWord : List Char → List Char × List Char
  | [] => ([], [])
  | c :: cs =>
    if c = '\\' then
      match cs with
      | [] => (['\\'], [])
      | d :: ds => (spanWord ds).map ('\\' :: d :: ·) id
    else if endsWord c then ([], c :: cs)
    else (spanWord cs).map (c :: ·) id

/-- The part of a text before its first `quote` that has no backslash before it, and what follows
that quote; nothing follows if there is no such quote. -/
def spanQuoted (quote : Char) : List Char → List Char × Option (List Char)
  | [] => ([], none)
  | c :: cs =>
    if c = quote then ([], some cs)
    else if c = '\\' then
      match cs with
      | [] => (['\\'], none)
      | d :: ds => (spanQuoted quote ds).map ('\\' :: d :: ·) id
    else (spanQuoted quote cs).map (c :: ·) id

/-- What a written word means: a backslash stands for the character after it, and for nothing at
the end. -/
def unescape : List Char → List Char
  | [] => []
  | c :: cs =>
    if c = '\\' then
      match cs with
      | [] => []
      | d :: ds => d :: unescape ds
    else c :: unescape cs

/-! ## Lexemes -/

/-- A piece of a text that makes one token. -/
inductive Lexeme where
  | symbol (mark : Symbol)
  /-- A word as written, escapes included. -/
  | word (written : List Char)
  /-- What stands between the quotes, escapes included, and whether the second quote is there. -/
  | quoted (quote : Char) (written : List Char) (closed : Bool)
  deriving DecidableEq, Repr

namespace Lexeme

/-- What a lexeme covers of the text. -/
def text : Lexeme → List Char
  | symbol mark => mark.text.toList
  | word written => written
  | quoted quote written closed => quote :: (written ++ if closed then [quote] else [])

/-- What a lexeme means. -/
def token : Lexeme → Token
  | symbol mark => .symbol mark
  | word written => .word (String.ofList (unescape written))
  | quoted _ written _ => .word (String.ofList (unescape written))

/-- The word or quoted span that starts with `c`. -/
def ofWord (c : Char) (cs : List Char) : Lexeme × List Char :=
  if isQuote c then
    match spanQuoted c cs with
    | (written, some rest) => (quoted c written true, rest)
    | (written, none) => (quoted c written false, [])
  else
    let p := spanWord (c :: cs)
    (word p.1, p.2)

/-- The first lexeme of a text, and what follows it; nothing if the text is blank. -/
def next? : List Char → Option (Lexeme × List Char)
  | [] => none
  | c :: cs =>
    if isBlank c then next? cs
    else
      match Symbol.munch? (c :: cs) with
      | some (mark, rest) => some (symbol mark, rest)
      | none => some (ofWord c cs)

/-! ## Nothing is lost -/

end Lexeme

theorem spanWord_append (cs : List Char) : (spanWord cs).1 ++ (spanWord cs).2 = cs := by
  fun_induction spanWord cs <;> simp_all

theorem spanQuoted_append (quote : Char) (cs : List Char) :
    (spanQuoted quote cs).1 ++ ((spanQuoted quote cs).2.elim [] (quote :: ·)) = cs := by
  fun_induction spanQuoted quote cs <;> simp_all

namespace Lexeme

theorem ofWord_text (c : Char) (cs : List Char) :
    (ofWord c cs).1.text ++ (ofWord c cs).2 = c :: cs := by
  unfold ofWord
  split
  · have h := spanQuoted_append c cs
    split <;> rename_i hs <;> simp_all [text]
  · exact spanWord_append (c :: cs)

/-- **Nothing is lost**: what is skipped, what is read and what is left make up the text. -/
theorem next?_text {cs rest : List Char} {l : Lexeme} (h : next? cs = some (l, rest)) :
    cs = cs.takeWhile isBlank ++ l.text ++ rest := by
  induction cs with
  | nil => simp [next?] at h
  | cons c cs ih =>
    unfold next? at h
    split at h
    · next hb => simpa [List.takeWhile_cons, hb] using ih h
    · next hb =>
      split at h
      · next mark r hm =>
        obtain ⟨rfl, rfl⟩ : symbol mark = l ∧ r = rest := by simpa using h
        simpa [List.takeWhile_cons, hb, text] using (Symbol.munch?_eq_some hm).symm
      · have := ofWord_text c cs
        rw [Option.some.inj h] at this
        simpa [List.takeWhile_cons, hb] using this.symm

/-- A text without a lexeme is blank. -/
theorem next?_eq_none_iff {cs : List Char} : next? cs = none ↔ ∀ c ∈ cs, isBlank c = true := by
  induction cs with
  | nil => simp [next?]
  | cons c cs ih =>
    unfold next?
    split
    · next hb => simp [ih, hb]
    · next hb => split <;> simp [hb]

/-- No lexeme is empty. -/
theorem length_text_pos_of_next? {cs rest : List Char} {l : Lexeme}
    (h : next? cs = some (l, rest)) : 0 < l.text.length := by
  induction cs with
  | nil => simp [next?] at h
  | cons c cs ih =>
    unfold next? at h
    split at h
    · exact ih h
    · next hb =>
      split at h
      · next mark r hm =>
        obtain ⟨rfl, rfl⟩ : symbol mark = l ∧ r = rest := by simpa using h
        exact Symbol.length_text_pos mark
      · next hm =>
        rw [Symbol.munch?_cons_eq_none_iff] at hm
        obtain rfl : (ofWord c cs).1 = l := by rw [Option.some.inj h]
        unfold ofWord
        split
        · split <;> simp [text]
        · simp only [text]
          unfold spanWord
          have he : endsWord c = false := by simp [endsWord, hb, hm]
          split
          · split <;> simp
          · simp [he]

theorem next?_length_lt {cs rest : List Char} {l : Lexeme} (h : next? cs = some (l, rest)) :
    rest.length < cs.length := by
  have h1 := congrArg List.length (next?_text h)
  have h2 := length_text_pos_of_next? h
  simp only [List.length_append] at h1
  omega

end Lexeme

/-! ## Whole texts -/

/-- The lexemes of a text, in order. -/
def lexemes (cs : List Char) : List Lexeme :=
  match _h : Lexeme.next? cs with
  | none => []
  | some (l, rest) => l :: lexemes rest
termination_by cs.length
decreasing_by exact Lexeme.next?_length_lt _h

/-- The tokens of a text: the meanings of its lexemes, then the end of the input. -/
def tokens (cs : List Char) : List Token :=
  (lexemes cs).map Lexeme.token ++ [.endOfInput]

/-- The tokens of a line. -/
def tokenize (line : String) : List Token :=
  tokens line.toList

/-- One token, and the text that is left. -/
def nextToken (cs : List Char) : Token × List Char :=
  match Lexeme.next? cs with
  | none => (.endOfInput, [])
  | some (l, rest) => (l.token, rest)

/-- The tokens of `count` steps, and the text that is left. -/
def nextTokens : Nat → List Char → List Token × List Char
  | 0, cs => ([], cs)
  | count + 1, cs =>
    let step := nextToken cs
    let more := nextTokens count step.2
    (step.1 :: more.1, more.2)

theorem lexemes_of_next? {cs rest : List Char} {l : Lexeme}
    (h : Lexeme.next? cs = some (l, rest)) : lexemes cs = l :: lexemes rest := by
  rw [lexemes]
  split <;> simp_all

theorem lexemes_of_next?_eq_none {cs : List Char} (h : Lexeme.next? cs = none) :
    lexemes cs = [] := by
  rw [lexemes]
  split <;> simp_all

/-- The tokens are the end of the input, if that is the next one, and else the next one and the
tokens of what is left. -/
theorem tokens_eq_nextToken (cs : List Char) :
    tokens cs =
      if (nextToken cs).1 = .endOfInput then [.endOfInput]
      else (nextToken cs).1 :: tokens (nextToken cs).2 := by
  unfold nextToken
  split
  · next h => simp [tokens, lexemes_of_next?_eq_none h]
  · next l rest h =>
    have : l.token ≠ .endOfInput := by cases l <;> simp [Lexeme.token]
    simp [tokens, lexemes_of_next? h, this]

end LineShell
