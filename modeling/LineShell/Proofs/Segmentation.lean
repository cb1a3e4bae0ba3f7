import LineShell.Proofs.Boundary
import Mathlib

/-!
# The tokens of a text are those of its one segmentation

What a text means is said here without a reader. `Piece text token rest` says that the characters
`text` may stand as one lexeme before `rest`, and mean `token`: a symbol, an unquoted run, or a
quoted span. A `Segmentation` cuts a text into blanks and pieces, each the longest of those that may
stand at its place.

* The characters are listed in `blanks`, `delimiters` and `quotes`; all others are ordinary, so a
  quote inside a run and white space outside ASCII stand for themselves.
* `Spelling` is the law of escapes, for runs and spans alike: a backslash and a character stand for
  the character. A backslash with nothing after it stands for nothing. Only at the end of the text
  may a piece be left like that, or a span without its second quote.

Headlines:
* `Piece.le_next?`: the reader's first lexeme is at least as long as any piece, and means the same
  as a piece of its length; `piece_of_next?`: it is a piece itself.
* **`tokenize_segmentation`**: every text has exactly one segmentation, whose tokens are those of
  the text; rows of a mark that doubles are cut in pairs.
-/

namespace LineShell

/-! ## Pieces -/

/-- What separates lexemes. -/
def blanks : List Char := [' ', '\t', '\r', '\x0b', '\x0c']

/-- What ends an unquoted run. -/
def delimiters : List Char := blanks ++ ['\n', '|', '&', ';', '<', '>']

def quotes : List Char := ['\'', '"']

/-- **The law of escapes**: what is `written` in characters that satisfy `plain` and in pairs of a
backslash and any character has the given value. `whole` is false if a backslash is left over. -/
inductive Spelling (plain : Char → Prop) :
    (written value : List Char) → (whole : Bool) → Prop where
  | done : Spelling plain [] [] true
  | lone : Spelling plain ['\\'] [] false
  | char {c : Char} {written value : List Char} {whole : Bool} : c ≠ '\\' → plain c →
      Spelling plain written value whole → Spelling plain (c :: written) (c :: value) whole
  | pair {written value : List Char} {whole : Bool} (c : Char) :
      Spelling plain written value whole →
      Spelling plain ('\\' :: c :: written) (c :: value) whole

/-- The characters may stand as one lexeme in front of the rest, and mean the token. -/
inductive Piece : (text : List Char) → Token → (rest : List Char) → Prop where
  | symbol (mark : Symbol) (rest : List Char) : Piece mark.text.toList (.symbol mark) rest
  | run {written value : List Char} {whole : Bool} {rest : List Char} : written ≠ [] →
      (∀ c ∈ written.head?, c ∉ quotes) → Spelling (· ∉ delimiters) written value whole →
      (whole = true ∨ rest = []) → Piece written (.word (String.ofList value)) rest
  | closedSpan {q : Char} {written value : List Char} (rest : List Char) : q ∈ quotes →
      Spelling (· ≠ q) written value true →
      Piece (q :: (written ++ [q])) (.word (String.ofList value)) rest
  | openSpan {q : Char} {written value : List Char} {whole : Bool} : q ∈ quotes →
      Spelling (· ≠ q) written value whole → Piece (q :: written) (.word (String.ofList value)) []

/-- A lexeme with the blanks before it and what it means. -/
structure Segment where
  before : List Char
  lexeme : List Char
  token : Token

/-- The text is cut into segments and blanks at its end, and every lexeme is the longest of the
pieces that may stand at its place. -/
inductive Segmentation : (text : List Char) → List Segment → (trailing : List Char) → Prop where
  | done {trailing : List Char} : (∀ c ∈ trailing, c ∈ blanks) → Segmentation trailing [] trailing
  | next {s : Segment} {rest trailing : List Char} {ss : List Segment} :
      (∀ c ∈ s.before, c ∈ blanks) → Piece s.lexeme s.token rest →
      (∀ text token rest', text ++ rest' = s.lexeme ++ rest → Piece text token rest' →
        text.length ≤ s.lexeme.length) →
      Segmentation rest ss trailing →
      Segmentation (s.before ++ (s.lexeme ++ rest)) (s :: ss) trailing

/-! ## Characters -/

theorem isBlank_iff {c : Char} : isBlank c = true ↔ c ∈ blanks := by
  simp [isBlank, blanks, or_assoc]

theorem endsWord_iff {c : Char} : endsWord c = true ↔ c ∈ delimiters := by
  simp [endsWord, isBlank, Symbol.isMark, delimiters, blanks, or_assoc]

theorem isQuote_iff {c : Char} : isQuote c = true ↔ c ∈ quotes := by
  simp [isQuote, quotes]

theorem endsWord_eq_false_iff {c : Char} : endsWord c = false ↔ c ∉ delimiters := by
  rw [← endsWord_iff, Bool.not_eq_true]

theorem isQuote_eq_false_iff {c : Char} : isQuote c = false ↔ c ∉ quotes := by
  rw [← isQuote_iff, Bool.not_eq_true]

theorem ne_backslash_of_mem_quotes {q : Char} (h : q ∈ quotes) : q ≠ '\\' := by
  rintro rfl
  exact absurd h (by decide)

/-! ## Spellings and spans -/

theorem unescape_char {c : Char} (hc : c ≠ '\\') (cs : List Char) :
    unescape (c :: cs) = c :: unescape cs := by
  rw [unescape.eq_def]
  simp [hc]

theorem unescape_pair (c : Char) (cs : List Char) :
    unescape ('\\' :: c :: cs) = c :: unescape cs := by
  rw [unescape.eq_def]
  simp

theorem Spelling.unescape_eq {plain : Char → Prop} {written value : List Char} {whole : Bool}
    (h : Spelling plain written value whole) : unescape written = value := by
  induction h with
  | done => rfl
  | lone => rfl
  | char hc _ _ ih => rw [unescape_char hc, ih]
  | pair c _ ih => rw [unescape_pair, ih]

/-- What `spanWord` takes is spelled in ordinary characters, and whole unless it ends the text. -/
theorem spanWord_spelling (cs : List Char) :
    ∃ whole, Spelling (· ∉ delimiters) (spanWord cs).1 (unescape (spanWord cs).1) whole ∧
      (whole = true ∨ (spanWord cs).2 = []) := by
  fun_induction spanWord cs with
  | case1 => exact ⟨true, .done, .inl rfl⟩
  | case2 => exact ⟨false, .lone, .inr rfl⟩
  | case3 c cs ih =>
    obtain ⟨whole, hs, hw⟩ := ih
    refine ⟨whole, ?_, hw⟩
    change Spelling _ ('\\' :: c :: (spanWord cs).1) _ _
    rw [Prod.map_fst, unescape_pair]
    exact hs.pair c
  | case4 c cs hc he => exact ⟨true, .done, .inl rfl⟩
  | case5 c cs hc he ih =>
    obtain ⟨whole, hs, hw⟩ := ih
    refine ⟨whole, ?_, hw⟩
    change Spelling _ (c :: (spanWord cs).1) _ _
    rw [Prod.map_fst, unescape_char hc]
    exact hs.char hc (endsWord_eq_false_iff.mp (by simpa using he))

theorem spanWord_of_spelling {written value rest : List Char} {whole : Bool}
    (h : Spelling (· ∉ delimiters) written value whole) (hrest : whole = true ∨ rest = []) :
    spanWord (written ++ rest) = (written ++ (spanWord rest).1, (spanWord rest).2) := by
  induction h with
  | done => rfl
  | lone =>
    obtain rfl : rest = [] := by simpa using hrest
    rfl
  | char hc hplain _ ih =>
    rw [List.cons_append, spanWord_char hc (endsWord_eq_false_iff.mpr hplain), ih hrest]
    rfl
  | pair c _ ih =>
    rw [List.cons_append, List.cons_append, spanWord_pair, ih hrest]
    rfl

/-- What `spanQuoted` takes is spelled without the quote, and whole if the second quote is there. -/
theorem spanQuoted_spelling (q : Char) (cs : List Char) :
    ∃ whole, Spelling (· ≠ q) (spanQuoted q cs).1 (unescape (spanQuoted q cs).1) whole ∧
      ((spanQuoted q cs).2.isSome = true → whole = true) := by
  fun_induction spanQuoted q cs with
  | case1 => exact ⟨true, .done, fun _ => rfl⟩
  | case2 cs => exact ⟨true, .done, fun _ => rfl⟩
  | case3 => exact ⟨false, .lone, fun h => absurd h (by simp)⟩
  | case4 c cs _ ih =>
    obtain ⟨whole, hs, hw⟩ := ih
    refine ⟨whole, ?_, hw⟩
    change Spelling _ ('\\' :: c :: (spanQuoted q cs).1) _ _
    rw [Prod.map_fst, unescape_pair]
    exact hs.pair c
  | case5 c cs hne hc ih =>
    obtain ⟨whole, hs, hw⟩ := ih
    refine ⟨whole, ?_, hw⟩
    change Spelling _ (c :: (spanQuoted q cs).1) _ _
    rw [Prod.map_fst, unescape_char hc]
    exact hs.char hc hne

theorem spanQuoted_of_spelling {q : Char} (hq : q ≠ '\\') {written value : List Char}
    {whole : Bool} (h : Spelling (· ≠ q) written value whole) :
    spanQuoted q written = (written, none) ∧ (whole = true →
      ∀ rest, spanQuoted q (written ++ q :: rest) = (written, some rest)) := by
  induction h with
  | done => exact ⟨rfl, fun _ rest => spanQuoted_quote q rest⟩
  | lone =>
    refine ⟨?_, fun h => absurd h (by simp)⟩
    rw [spanQuoted, if_neg (Ne.symm hq), if_pos rfl]
  | char hc hplain _ ih =>
    refine ⟨?_, fun hw rest => ?_⟩
    · rw [spanQuoted_char hplain hc, ih.1]
    · rw [List.cons_append, spanQuoted_char hplain hc, ih.2 hw]
  | pair c _ ih =>
    refine ⟨?_, fun hw rest => ?_⟩
    · rw [spanQuoted_pair hq, ih.1]
    · rw [List.cons_append, List.cons_append, spanQuoted_pair hq, ih.2 hw]

/-! ## Pieces and the reader -/

open Lexeme

theorem endsWord_of_mem_quotes {q : Char} (h : q ∈ quotes) : endsWord q = false := by
  simp only [quotes, List.mem_cons, List.not_mem_nil, or_false] at h
  rcases h with rfl | rfl <;> decide

/-- The text of a symbol of one mark starts with that symbol, or with the one of two. -/
theorem munch?_text_append_of_mem_doublings {d : Char} {one two : Symbol}
    (h : (d, one, two) ∈ doublings) (rest : List Char) :
    ∃ longest more, Symbol.munch? (one.text.toList ++ rest) = some (longest, more) ∧
      one.text.toList.length ≤ longest.text.toList.length ∧
      (one.text.toList.length = longest.text.toList.length → one = longest) := by
  obtain ⟨hone, htwo⟩ := text_of_mem_doublings h
  rw [hone]
  by_cases hrest : rest.head? = some d
  · obtain ⟨more, rfl⟩ : ∃ more, rest = d :: more := List.head?_eq_some_iff.mp hrest
    exact ⟨two, more, Symbol.munch?_two h more, by simp [htwo], by simp [htwo]⟩
  · exact ⟨one, rest, Symbol.munch?_one h hrest, by simp [hone], fun _ => rfl⟩

/-- The text of a symbol starts with a symbol that is at least as long, and the same one if not
longer. -/
theorem munch?_text_append (mark : Symbol) (rest : List Char) :
    ∃ longest more, Symbol.munch? (mark.text.toList ++ rest) = some (longest, more) ∧
      mark.text.toList.length ≤ longest.text.toList.length ∧
      (mark.text.toList.length = longest.text.toList.length → mark = longest) := by
  by_cases hd : ∃ d two, (d, mark, two) ∈ doublings
  · obtain ⟨d, two, h⟩ := hd
    exact munch?_text_append_of_mem_doublings h rest
  · have single : Symbol.munch? (mark.text.toList ++ rest) = some (mark, rest) := by
      cases mark with
      | connective op =>
        cases op with
        | pipeline => exact absurd ⟨'|', .connective .or, by decide⟩ hd
        | sequence => rfl
        | and => rfl
        | or => rfl
      | redirect kind =>
        cases kind with
        | input => rfl
        | output => exact absurd ⟨'>', .redirect .append, by decide⟩ hd
        | append => rfl
      | background => exact absurd ⟨'&', .connective .and, by decide⟩ hd
      | newline => rfl
    exact ⟨mark, rest, single, Nat.le_refl _, fun _ => rfl⟩

/-- The first character of a spelling in ordinary characters does not end words. -/
theorem Spelling.endsWord_head {c : Char} {written value : List Char} {whole : Bool}
    (h : Spelling (· ∉ delimiters) (c :: written) value whole) : endsWord c = false := by
  cases h with
  | lone => decide
  | char _ hplain _ => exact endsWord_eq_false_iff.mpr hplain
  | pair _ _ => decide

/-- **No piece is longer than what is read**, and a piece of the same length means the same. -/
theorem Piece.le_next? {text rest : List Char} {token : Token} (h : Piece text token rest) :
    ∃ l more, next? (text ++ rest) = some (l, more) ∧ l.text ++ more = text ++ rest ∧
      text.length ≤ l.text.length ∧ (text.length = l.text.length → token = l.token) := by
  cases h with
  | symbol mark rest =>
    obtain ⟨longest, more, hm, hle, heq⟩ := munch?_text_append mark rest
    refine ⟨.symbol longest, more, next?_of_munch? hm, Symbol.munch?_eq_some hm, hle, fun h => ?_⟩
    rw [heq h]
    rfl
  | @run written value whole _ hne hquote hs hwhole =>
    obtain ⟨c, cs, rfl⟩ := List.exists_cons_of_ne_nil hne
    have hq : isQuote c = false := isQuote_eq_false_iff.mpr (hquote c rfl)
    have hof := ofWord_of_not_isQuote hq (cs ++ rest)
    rw [← List.cons_append, spanWord_of_spelling hs hwhole] at hof
    rw [List.cons_append, next?_eq_ofWord hs.endsWord_head, hof]
    refine ⟨_, _, rfl, ?_, by simp [Lexeme.text], fun hlen => ?_⟩
    · simp [Lexeme.text, spanWord_append]
    have hnil : (spanWord rest).1 = [] := by
      simpa [Lexeme.text] using hlen
    rw [hnil, List.append_nil, Lexeme.token, hs.unescape_eq]
  | @closedSpan q written value rest hq hs =>
    have hspan := (spanQuoted_of_spelling (ne_backslash_of_mem_quotes hq) hs).2 rfl rest
    have hof := ofWord_of_closing (isQuote_iff.mpr hq) (congrArg Prod.snd hspan)
    have hcs : q :: (written ++ [q]) ++ rest = q :: (written ++ q :: rest) := by simp
    rw [hcs, next?_eq_ofWord (endsWord_of_mem_quotes hq), hof, hspan]
    exact ⟨_, _, rfl, by simp [Lexeme.text], by simp [Lexeme.text],
      fun _ => by rw [Lexeme.token, hs.unescape_eq]⟩
  | @openSpan q written value whole hq hs =>
    have hspan := (spanQuoted_of_spelling (ne_backslash_of_mem_quotes hq) hs).1
    have hof := ofWord_of_not_closing (isQuote_iff.mpr hq) (congrArg Prod.snd hspan)
    rw [List.append_nil, next?_eq_ofWord (endsWord_of_mem_quotes hq), hof, hspan]
    exact ⟨_, _, rfl, by simp [Lexeme.text], by simp [Lexeme.text],
      fun _ => by rw [Lexeme.token, hs.unescape_eq]⟩

theorem exists_spanWord_eq_cons {c : Char} (hc : endsWord c = false) (cs : List Char) :
    ∃ written, (spanWord (c :: cs)).1 = c :: written := by
  by_cases hslash : c = '\\'
  · subst hslash
    cases cs with
    | nil => exact ⟨[], rfl⟩
    | cons d cs => exact ⟨_, by rw [spanWord_pair]⟩
  · exact ⟨_, by rw [spanWord_char hslash hc]⟩

theorem piece_ofWord {c : Char} (hc : endsWord c = false) (cs : List Char) :
    Piece (ofWord c cs).1.text (ofWord c cs).1.token (ofWord c cs).2 := by
  cases hq : isQuote c with
  | false =>
    obtain ⟨whole, hs, hw⟩ := spanWord_spelling (c :: cs)
    obtain ⟨written, hwritten⟩ := exists_spanWord_eq_cons hc cs
    rw [ofWord_of_not_isQuote hq]
    refine .run ?_ ?_ hs hw
    · rw [hwritten]
      exact List.cons_ne_nil c written
    · rw [hwritten]
      intro d hd
      obtain rfl : c = d := by simpa [Lexeme.text] using hd
      exact isQuote_eq_false_iff.mp hq
  | true =>
    have hq' := isQuote_iff.mp hq
    obtain ⟨whole, hs, hw⟩ := spanQuoted_spelling c cs
    cases hrest : (spanQuoted c cs).2 with
    | none =>
      rw [ofWord_of_not_closing hq hrest]
      simpa [Lexeme.text, Lexeme.token] using Piece.openSpan hq' hs
    | some rest =>
      obtain rfl : whole = true := hw (by rw [hrest]; rfl)
      rw [ofWord_of_closing hq hrest]
      exact .closedSpan rest hq' hs

/-- **What is read is a piece.** -/
theorem piece_of_next? {cs rest : List Char} {l : Lexeme} (h : next? cs = some (l, rest)) :
    Piece l.text l.token rest := by
  obtain ⟨skipped, c, ds, -, -, ⟨mark, rfl, -⟩ | ⟨hc, hw⟩⟩ := next?_cases h
  · exact .symbol mark rest
  · have hpiece := piece_ofWord hc ds
    rwa [hw] at hpiece

/-! ## Segmentations -/

/-- A text of blanks has nothing to read. -/
theorem Segmentation.next?_of_nil {text trailing : List Char}
    (h : Segmentation text [] trailing) : next? text = none ∧ text = trailing := by
  cases h with
  | done hblank => exact ⟨next?_eq_none_iff.mpr fun c hc => isBlank_iff.mpr (hblank c hc), rfl⟩

/-- **The first segment of any segmentation is what is read.** -/
theorem Segmentation.next?_of_cons {text trailing : List Char} {s : Segment} {ss : List Segment}
    (h : Segmentation text (s :: ss) trailing) :
    ∃ l rest, next? text = some (l, rest) ∧ s.lexeme = l.text ∧ s.token = l.token ∧
      text = s.before ++ (l.text ++ rest) ∧ Segmentation rest ss trailing := by
  cases h with
  | @next _ rest _ _ hblank hpiece hlongest htail =>
    obtain ⟨l, more, hn, htext, hle, htoken⟩ := hpiece.le_next?
    have hlen : s.lexeme.length = l.text.length :=
      Nat.le_antisymm hle (hlongest _ _ _ htext (piece_of_next? hn))
    obtain ⟨hlexeme, hrest⟩ := List.append_inj htext.symm hlen
    have hskip := next?_append_of_blank (fun c hc => isBlank_iff.mpr (hblank c hc))
      (s.lexeme ++ rest)
    refine ⟨l, more, hskip.trans hn, hlexeme, htoken hlen, ?_, hrest ▸ htail⟩
    rw [← hlexeme, ← hrest]

/-- A text has at most one segmentation. -/
theorem Segmentation.unique {text trailing trailing' : List Char} {ss ss' : List Segment}
    (h : Segmentation text ss trailing) (h' : Segmentation text ss' trailing') :
    ss' = ss ∧ trailing' = trailing := by
  induction ss generalizing text ss' with
  | nil =>
    obtain ⟨hn, rfl⟩ := h.next?_of_nil
    cases ss' with
    | nil => exact ⟨rfl, h'.next?_of_nil.2.symm⟩
    | cons s' ss' =>
      obtain ⟨l, rest, hn', -⟩ := h'.next?_of_cons
      rw [hn] at hn'
      exact absurd hn' (by simp)
  | cons s ss ih =>
    obtain ⟨l, rest, hn, hlexeme, htoken, htext, htail⟩ := h.next?_of_cons
    cases ss' with
    | nil =>
      rw [h'.next?_of_nil.1] at hn
      exact absurd hn (by simp)
    | cons s' ss' =>
      obtain ⟨l', rest', hn', hlexeme', htoken', htext', htail'⟩ := h'.next?_of_cons
      obtain ⟨rfl, rfl⟩ := Prod.mk.inj (Option.some.inj (hn.symm.trans hn'))
      obtain ⟨rfl, rfl⟩ := ih htail htail'
      have hbefore : s'.before = s.before :=
        List.append_cancel_right (htext'.symm.trans htext)
      have hs : s' = s := by
        cases s
        cases s'
        simp_all
      exact ⟨by rw [hs], rfl⟩

/-- Every text has a segmentation, and its tokens are those of the text. -/
theorem exists_segmentation (cs : List Char) :
    ∃ ss trailing, Segmentation cs ss trailing ∧
      ss.map Segment.token = (lexemes cs).map Lexeme.token := by
  fun_induction lexemes cs with
  | case1 cs hn =>
    exact ⟨[], cs, .done fun c hc => isBlank_iff.mp (next?_eq_none_iff.mp hn c hc), rfl⟩
  | case2 cs l rest hn ih =>
    obtain ⟨ss, trailing, hss, htokens⟩ := ih
    have hblank : ∀ c ∈ cs.takeWhile isBlank, isBlank c = true :=
      List.all_eq_true.mp List.all_takeWhile
    have htext : cs = cs.takeWhile isBlank ++ (l.text ++ rest) := by
      rw [← List.append_assoc]
      exact next?_text hn
    have hfirst : next? (l.text ++ rest) = some (l, rest) := by
      rw [← next?_append_of_blank hblank, ← htext, hn]
    refine ⟨⟨cs.takeWhile isBlank, l.text, l.token⟩ :: ss, trailing, ?_, by simp [htokens]⟩
    have hsegments := Segmentation.next (s := ⟨cs.takeWhile isBlank, l.text, l.token⟩)
      (fun c hc => isBlank_iff.mp (hblank c hc)) (piece_of_next? hn) ?_ hss
    · rwa [← htext] at hsegments
    · intro text token rest' heq hpiece
      obtain ⟨l', more, hn', -, hle, -⟩ := hpiece.le_next?
      rw [heq, hfirst] at hn'
      obtain ⟨rfl, rfl⟩ := Prod.mk.inj (Option.some.inj hn')
      exact hle

/-- Rows of one mark, outside quotes: `n` of them are `n / 2` pairs, and one alone if `n` is odd. -/
theorem tokens_run {d : Char} {one two : Symbol} (h : (d, one, two) ∈ doublings)
    {before after : List Char} {n : Nat} (hbefore : Closed before) (hd : ¬ Doubles before d)
    (hafter : after.head? ≠ some d) (hn : 0 < n) :
    tokens (before ++ (List.replicate n d ++ after)) =
      (tokens before).dropLast ++ List.replicate (n / 2) (.symbol two) ++
        List.replicate (n % 2) (.symbol one) ++ tokens after := by
  have hsep : Separates before (List.replicate n d ++ after) := by
    obtain ⟨k, rfl⟩ := Nat.exists_eq_add_of_lt hn
    intro c hc
    obtain rfl : d = c := by simpa [List.replicate_succ] using hc
    exact ⟨endsWord_of_mem_doublings h, hd⟩
  simp only [tokens, lexemes_append hbefore hsep, lexemes_run h hafter, List.map_append,
    List.map_replicate, List.dropLast_concat, List.append_assoc]
  rfl

/-- **Reading a text is cutting it into its longest pieces.** Every text has one segmentation, and
the tokens of the text are those of its segments and the end of the input. In particular, `n` times
`|`, `&` or `>` in a row, outside quotes and not escaped, are `n / 2` times the symbol of two
characters, then `n % 2` times the symbol of one. -/
theorem tokenize_segmentation :
    (∀ line : String, ∃ ss trailing, Segmentation line.toList ss trailing ∧
      (∀ ss' trailing', Segmentation line.toList ss' trailing' →
        ss' = ss ∧ trailing' = trailing) ∧
      tokenize line = ss.map Segment.token ++ [.endOfInput]) ∧
    ∀ d one two, (d, one, two) ∈ doublings → ∀ (before after : String) (n : Nat),
      Closed before.toList → ¬ Doubles before.toList d → after.toList.head? ≠ some d → 0 < n →
        tokenize (before ++ String.ofList (List.replicate n d) ++ after) =
          (tokenize before).dropLast ++ List.replicate (n / 2) (.symbol two) ++
            List.replicate (n % 2) (.symbol one) ++ tokenize after := by
  refine ⟨fun line => ?_, fun d one two h before after n hbefore hd hafter hn => ?_⟩
  · obtain ⟨ss, trailing, hss, htokens⟩ := exists_segmentation line.toList
    refine ⟨ss, trailing, hss, fun _ _ => hss.unique, ?_⟩
    rw [htokens]
    rfl
  · have hrun := tokens_run h hbefore hd hafter hn
    simpa [tokenize] using hrun

/-- Five marks after an escaped one: the escape belongs to the word. -/
theorem tokenize_five_marks :
    tokenize "a\\||||||b" =
      [.word "a|", .symbol (.connective .or), .symbol (.connective .or),
        .symbol (.connective .pipeline), .word "b", .endOfInput] := by
  have hlexemes : lexemes "a\\|".toList = [.word "a\\|".toList] := by cbv
  have hclosed : Closed "a\\|".toList := by
    intro l hl
    rw [hlexemes, List.mem_singleton] at hl
    rw [hl]
    rfl
  have hsingle : ¬ Doubles "a\\|".toList '|' := by
    rintro ⟨one, two, -, -, hlast⟩
    rw [hlexemes] at hlast
    simp at hlast
  have hrun := tokenize_segmentation.2 '|' (.connective .pipeline) (.connective .or) (by decide)
    "a\\|" "b" 5 hclosed hsingle (by decide) (by decide)
  rw [show tokenize "a\\|" = [.word "a|", .endOfInput] by cbv,
    show tokenize "b" = [.word "b", .endOfInput] by cbv] at hrun
  exact hrun

end LineShell
