import LineShell.Proofs.Quoting

/-!
# Any word can be written, with quotes and without

A word of any characters is written in two ways. Between quotes the second quote ends it, so it is
read back whatever follows. Without quotes a backslash goes before every character (`escaped`), and
nothing but the next character ends the word: what follows must be empty or start with a delimiter,
or else the word goes on. One case is not seen in the word itself: a lone backslash at the end of
the text adds no character to it, but is a word of its own when read alone.

Results:
* `next?_escaped`: what is read as one lexeme if each character of it is escaped.
* `tokenize_escaped_iff`: an escaped word is a word of its own exactly before a delimiter or the
  end.
* **`tokenize_quote_and_escaped`**: both ways give the word, and then the tokens of what follows.
-/

namespace LineShell

/-- The word with a backslash before every character. -/
def escapeEach (cs : List Char) : List Char :=
  cs.flatMap fun c => ['\\', c]

/-- A word without quotes in which every character is escaped. -/
def escaped (w : String) : String :=
  String.ofList (escapeEach w.toList)

/-! ## What escapes stand for -/

theorem spelling_escapeEach (plain : Char → Prop) (cs : List Char) :
    Spelling plain (escapeEach cs) cs true := by
  induction cs with
  | nil => exact .done
  | cons c cs ih => exact .pair c ih

theorem unescape_escapeEach_append (cs ds : List Char) :
    unescape (escapeEach cs ++ ds) = cs ++ unescape ds := by
  induction cs with
  | nil => rfl
  | cons c cs ih =>
    change unescape ('\\' :: c :: (escapeEach cs ++ ds)) = _
    rw [unescape_pair, ih, List.cons_append]

/-- What is written stands for no character only if it is nothing or one backslash. -/
theorem unescape_eq_nil_iff {cs : List Char} : unescape cs = [] ↔ cs = [] ∨ cs = ['\\'] := by
  constructor
  · intro h
    cases cs with
    | nil => exact .inl rfl
    | cons c cs =>
      by_cases hc : c = '\\'
      · subst hc
        cases cs with
        | nil => exact .inr rfl
        | cons d ds => simp [unescape_pair] at h
      · simp [unescape_char hc] at h
  · rintro (rfl | rfl) <;> rfl

/-- A word at the front of a text is a lone backslash only if the text is. -/
theorem eq_of_spanWord_eq_backslash {cs : List Char} (h : (spanWord cs).1 = ['\\']) :
    cs = ['\\'] := by
  have happend := spanWord_append cs
  rw [h] at happend
  cases hrest : (spanWord cs).2 with
  | nil => rw [← happend, hrest, List.append_nil]
  | cons d ds =>
    rw [hrest] at happend
    rw [← happend, List.singleton_append, spanWord_pair] at h
    simp at h

/-! ## Tokens -/

theorem tokens_of_next? {cs rest : List Char} {l : Lexeme} (h : Lexeme.next? cs = some (l, rest)) :
    tokens cs = l.token :: tokens rest := by
  rw [tokens, lexemes_of_next? h, List.map_cons, List.cons_append]
  rfl

/-- **A quoted word is one token**, whatever follows it. -/
theorem tokenize_quote {q : Char} (hq : q ∈ quotes) (w r : String) :
    tokenize (quote q w ++ r) = .word w :: tokenize r := by
  rw [tokenize, String.toList_append, tokens_of_next? (next?_quote hq w r.toList),
    token_quoted_escapeIn]
  rfl

/-- **An escaped word** is read together with the word that follows it. -/
theorem next?_escaped {w : String} (hw : w ≠ "") (rest : List Char) :
    Lexeme.next? ((escaped w).toList ++ rest) =
      some (.word (escapeEach w.toList ++ (spanWord rest).1), (spanWord rest).2) := by
  have hspan : spanWord (escapeEach w.toList ++ rest) =
      (escapeEach w.toList ++ (spanWord rest).1, (spanWord rest).2) :=
    spanWord_of_spelling (spelling_escapeEach _ w.toList) (.inl rfl)
  cases hcs : w.toList with
  | nil => exact absurd (String.toList_eq_nil_iff.mp hcs) hw
  | cons c cs =>
    have hcons : escapeEach (c :: cs) ++ rest = '\\' :: c :: (escapeEach cs ++ rest) := rfl
    rw [hcs, hcons] at hspan
    rw [escaped, hcs, String.toList_ofList, hcons, Lexeme.next?_eq_ofWord (by decide),
      Lexeme.ofWord_of_not_isQuote (by decide), hspan]

theorem tokenize_escaped {w : String} (hw : w ≠ "") (r : String) :
    tokenize (escaped w ++ r) =
      .word (w ++ String.ofList (unescape (spanWord r.toList).1)) ::
        tokens (spanWord r.toList).2 := by
  rw [tokenize, String.toList_append, tokens_of_next? (next?_escaped hw r.toList), Lexeme.token,
    unescape_escapeEach_append, String.ofList_append, String.ofList_toList]

/-- Nothing goes on with a word before the end of the text or a delimiter. -/
theorem spanWord_eq_nil_iff {cs : List Char} :
    (spanWord cs).1 = [] ↔ ∀ c ∈ cs.head?, c ∈ delimiters := by
  cases cs with
  | nil => simp [spanWord]
  | cons c cs =>
    cases hc : endsWord c with
    | true => simp [spanWord_of_endsWord hc, endsWord_iff.mp hc]
    | false =>
      obtain ⟨written, hwritten⟩ := exists_spanWord_eq_cons hc cs
      simp [hwritten, endsWord_eq_false_iff.mp hc]

/-- **An escaped word is a word of its own** exactly before a delimiter or the end of the text. -/
theorem tokenize_escaped_iff {w : String} (hw : w ≠ "") (r : String) :
    tokenize (escaped w ++ r) = .word w :: tokenize r ↔
      ∀ c ∈ r.toList.head?, c ∈ delimiters := by
  rw [tokenize_escaped hw, ← spanWord_eq_nil_iff]
  constructor
  · intro h
    obtain ⟨hword, hrest⟩ := List.cons.inj h
    have hmore : unescape (spanWord r.toList).1 = [] := by
      have hlists := congrArg String.toList (Token.word.inj hword)
      simpa using hlists
    refine (unescape_eq_nil_iff.mp hmore).resolve_right fun hlone => ?_
    -- the lone backslash is lost in the first word, but is a token if it is read alone
    rw [tokenize, eq_of_spanWord_eq_backslash hlone] at hrest
    exact absurd hrest (by cbv; simp)
  · intro h
    have hrest : (spanWord r.toList).2 = r.toList := by
      simpa [h] using spanWord_append r.toList
    rw [h, hrest]
    simp [unescape, tokenize]

/-! ## Both ways -/

/-- **Quoting and escaping are faithful.** Any word in quotes, with a backslash before each quote of
that kind and each backslash, is read as the word, whatever follows. Any word that is not empty is
read as itself with a backslash before every character, exactly if the text ends there or goes on
with a blank, a line break or one of `|`, `&`, `;`, `<`, `>`. -/
theorem tokenize_quote_and_escaped (w r : String) :
    (∀ q ∈ quotes, tokenize (quote q w ++ r) = .word w :: tokenize r) ∧
      (w ≠ "" → (tokenize (escaped w ++ r) = .word w :: tokenize r ↔
        ∀ c ∈ r.toList.head?, c ∈ delimiters)) := by
  constructor
  · intro q hq
    exact tokenize_quote hq w r
  · intro hw
    exact tokenize_escaped_iff hw r

/-- Quotes, a backslash, a blank, a mark and a line break, before another quoted word and before a
mark. -/
theorem tokenize_word_of_marks :
    let w := "\"\\ '&\n\\"
    quote '"' w ++ "'x'|" = "\"\\\"\\\\ '&\n\\\\\"'x'|" ∧
      tokenize (quote '"' w ++ "'x'|") =
        [.word w, .word "x", .symbol (.connective .pipeline), .endOfInput] ∧
      escaped w ++ "|x" = "\\\"\\\\\\ \\'\\&\\\n\\\\|x" ∧
      tokenize (escaped w ++ "|x") =
        [.word w, .symbol (.connective .pipeline), .word "x", .endOfInput] := by
  intro w
  have hquoted := (tokenize_quote_and_escaped w "'x'|").1 '"' (by decide)
  have hmark : ∀ c ∈ "|x".toList.head?, c ∈ delimiters := by
    intro c hc
    obtain rfl : '|' = c := by simpa using hc
    decide
  have hescaped := ((tokenize_quote_and_escaped w "|x").2 (by decide)).mpr hmark
  refine ⟨by decide, ?_, by decide, ?_⟩
  · rw [hquoted, show tokenize "'x'|" =
      [.word "x", .symbol (.connective .pipeline), .endOfInput] by cbv]
  · rw [hescaped, show tokenize "|x" =
      [.symbol (.connective .pipeline), .word "x", .endOfInput] by cbv]

end LineShell
