import LineShell.Proofs.RoundTrip

/-!
# Every tree of the parser's kind can be written

Between quotes every character can be written: a backslash before a character makes it stand for
itself, and only the quote and the backslash need one (`quote`). So a word of any characters, the
empty one too, is read back from its quoted form, whatever follows it. A tree whose words are
quoted is rendered to a text with the tokens of the tree, and this text parses to the tree if there
is any text that does.

Results:
* `Reads.quote`: a quoted word is read as the word.
* `parse_quotedLine`: a tree that a line can have is read back from its quoted form.
* **`exists_parse_eq_ok_iff`**: these trees are exactly those that lines parse to.
-/

namespace LineShell

open Grammar

/-! ## Quoted words -/

/-- A backslash before each quote `q` and each backslash. -/
def escapeIn (q : Char) (cs : List Char) : List Char :=
  cs.flatMap fun c => if c = q ∨ c = '\\' then ['\\', c] else [c]

/-- A word between two quotes `q`. -/
def quote (q : Char) (w : String) : String :=
  String.ofList (q :: (escapeIn q w.toList ++ [q]))

theorem spelling_escapeIn (q : Char) (cs : List Char) :
    Spelling (· ≠ q) (escapeIn q cs) cs true := by
  induction cs with
  | nil => exact .done
  | cons c cs ih =>
    rw [escapeIn, List.flatMap_cons]
    split
    · exact .pair c ih
    · next hc =>
      rw [not_or] at hc
      exact .char hc.2 hc.1 ih

/-- **A quoted word is one lexeme**, whatever follows it. -/
theorem next?_quote {q : Char} (hq : q ∈ quotes) (w : String) (rest : List Char) :
    Lexeme.next? ((quote q w).toList ++ rest) =
      some (.quoted q (escapeIn q w.toList) true, rest) := by
  have hspan := (spanQuoted_of_spelling (ne_backslash_of_mem_quotes hq)
    (spelling_escapeIn q w.toList)).2 rfl rest
  have hof := Lexeme.ofWord_of_closing (isQuote_iff.mpr hq) (congrArg Prod.snd hspan)
  rw [quote, String.toList_ofList, List.cons_append, List.append_assoc, List.singleton_append,
    Lexeme.next?_eq_ofWord (endsWord_of_mem_quotes hq), hof, hspan]

theorem token_quoted_escapeIn (q : Char) (w : String) :
    (Lexeme.quoted q (escapeIn q w.toList) true).token = .word w := by
  rw [Lexeme.token, (spelling_escapeIn q w.toList).unescape_eq, String.ofList_toList]

/-- **A quoted word is read as the word.** -/
theorem Reads.quote {q : Char} (hq : q ∈ quotes) (w : String) :
    Reads (quote q w).toList [.word w] := by
  have hnext := next?_quote hq w []
  rw [List.append_nil] at hnext
  have hread := Reads.of_next? hnext rfl
  rwa [token_quoted_escapeIn] at hread

/-! ## Quoted trees -/

/-- A line for the tree: its words are quoted, and the mark of its root is written. -/
def Command.quotedLine (c : Command) : String :=
  (c.mapWords (quote '\'')).render ++ if c.isBackground then " &" else ""

/-- **A quoted line has the tokens of the tree**, and the background mark of its root. -/
theorem reads_quotedLine (c : Command) :
    Reads c.quotedLine.toList (c.tokens ++ marks c.isBackground) := by
  have hrender : Reads (c.mapWords (quote '\'')).render.toList c.tokens :=
    joins_reads.render_mapWords fun w _ => Reads.quote (by decide) w
  exact hrender.marked c.isBackground

/-! ## The trees of lines -/

/-- **A tree is read back from its quoted form**, if it is one that a line can have. -/
theorem parse_quotedLine {c : Command} (h : c.Writable) : parse c.quotedLine = .ok c := by
  rw [parse_eq_ok_iff_line, (reads_quotedLine c).tokens_eq]
  exact h.line

/-- **The trees of lines.** A tree is parsed from some line exactly if it has the parser's shape, no
name in it is empty, and no node but the root is marked. It is parsed from its own quoted line
then. -/
theorem exists_parse_eq_ok_iff (c : Command) :
    ((∃ line, parse line = .ok c) ↔ c.Writable) ∧ (c.Writable → parse c.quotedLine = .ok c) := by
  refine ⟨⟨?_, fun h => ⟨c.quotedLine, parse_quotedLine h⟩⟩, parse_quotedLine⟩
  rintro ⟨line, h⟩
  exact (parse_eq_ok_iff_line.mp h).writable

/-- A name with a blank, an empty argument, and a target of quotes, a backslash and a line break. -/
theorem parse_quotedLine_of_marks :
    let c : Command :=
      (Command.join .and (.simple ⟨"a b", ["", "|;"], []⟩ false)
        (.simple ⟨"&", [], [⟨.append, "\\'\"\n"⟩]⟩ false)).setBackground true
    c.quotedLine = "'a b' '' '|;' && '&' >> '\\\\\\'\"\n' &" ∧ c.Writable ∧
      parse c.quotedLine = .ok c := by
  intro c
  have hwritable : c.Writable := by decide
  exact ⟨by decide, hwritable, (exists_parse_eq_ok_iff c).2 hwritable⟩

end LineShell
