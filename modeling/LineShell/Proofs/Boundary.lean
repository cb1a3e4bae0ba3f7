import LineShell.Lexeme
import Mathlib.Data.Nat.Init

/-!
# Reading a text piece by piece

Reading looks at most one character past a lexeme, so a text can be cut in front of a character that
ends words, and the two parts read on their own. There are three exceptions, all of them about the
last lexeme before the cut: a quoted span without its second quote, a backslash with nothing after
it, and a symbol of one character that doubles (`|`, `&`, `>`).

* `Closed` excludes the first two: no lexeme of the text is open.
* `Separates` is about the cut: what follows starts with a character that ends words, and does not
  double the symbol before it.

Headlines:
* `Lexeme.next?_cases`: all that reading one lexeme can be.
* `Lexeme.next?_append`: the first lexeme of a text stays the first one of a longer text.
* **`lexemes_append`**: the lexemes of a text that is cut are those of its parts.
* **`lexemes_run`**: a row of one character that doubles is read in pairs.
-/

namespace LineShell

/-! ## Open and closed texts -/

/-- Does the text end in a backslash that has nothing to escape? -/
def dangles : List Char → Bool
  | [] => false
  | c :: cs =>
    if c = '\\' then
      match cs with
      | [] => true
      | _ :: ds => dangles ds
    else dangles cs

/-- Would the lexeme go on over the end of the text? -/
def Lexeme.isOpen : Lexeme → Bool
  | symbol _ => false
  | word written => dangles written
  | quoted _ _ closed => !closed

/-- No quoted span of the text lacks its second quote, and no backslash its character. -/
def Closed (cs : List Char) : Prop :=
  ∀ l ∈ lexemes cs, l.isOpen = false

/-- The characters that are a symbol both once and twice. -/
def doublings : List (Char × Symbol × Symbol) :=
  [('|', .connective .pipeline, .connective .or),
   ('&', .background, .connective .and),
   ('>', .redirect .output, .redirect .append)]

/-- The text ends in the symbol `d`, and `d` twice is another symbol. -/
def Doubles (cs : List Char) (d : Char) : Prop :=
  ∃ one two, (d, one, two) ∈ doublings ∧ cs.getLast? = some d ∧
    (lexemes cs).getLast? = some (.symbol one)

/-- The text `cs` can be cut off in front of `ds`. -/
def Separates (cs ds : List Char) : Prop :=
  ∀ d ∈ ds.head?, endsWord d = true ∧ ¬ Doubles cs d

/-! ## Spans, one character at a time -/

theorem ne_backslash_of_endsWord {c : Char} (h : endsWord c = true) : c ≠ '\\' := by
  rintro rfl
  exact absurd h (by decide)

theorem spanWord_of_endsWord {c : Char} (h : endsWord c = true) (cs : List Char) :
    spanWord (c :: cs) = ([], c :: cs) := by
  rw [spanWord.eq_def]
  simp [h, ne_backslash_of_endsWord h]

theorem spanWord_char {c : Char} (hc : c ≠ '\\') (h : endsWord c = false) (cs : List Char) :
    spanWord (c :: cs) = (c :: (spanWord cs).1, (spanWord cs).2) := by
  rw [spanWord.eq_def]
  simp [h, hc, Prod.map]

theorem spanWord_pair (c : Char) (cs : List Char) :
    spanWord ('\\' :: c :: cs) = ('\\' :: c :: (spanWord cs).1, (spanWord cs).2) := by
  rw [spanWord.eq_def]
  simp [Prod.map]

theorem spanQuoted_quote (quote : Char) (cs : List Char) :
    spanQuoted quote (quote :: cs) = ([], some cs) := by
  rw [spanQuoted.eq_def]
  simp

theorem spanQuoted_char {quote c : Char} (hq : c ≠ quote) (hc : c ≠ '\\') (cs : List Char) :
    spanQuoted quote (c :: cs) = (c :: (spanQuoted quote cs).1, (spanQuoted quote cs).2) := by
  rw [spanQuoted.eq_def]
  simp [hq, hc, Prod.map]

theorem spanQuoted_pair {quote : Char} (hq : quote ≠ '\\') (c : Char) (cs : List Char) :
    spanQuoted quote ('\\' :: c :: cs) =
      ('\\' :: c :: (spanQuoted quote cs).1, (spanQuoted quote cs).2) := by
  rw [spanQuoted.eq_def]
  simp [Ne.symm hq, Prod.map]

theorem dangles_char {c : Char} (hc : c ≠ '\\') (cs : List Char) :
    dangles (c :: cs) = dangles cs := by
  rw [dangles.eq_def]
  simp [hc]

theorem dangles_pair (c : Char) (cs : List Char) : dangles ('\\' :: c :: cs) = dangles cs := by
  rw [dangles.eq_def]
  simp

/-! ## Spans in a longer text -/

theorem spanWord_append_of_closed {cs ds : List Char}
    (h : (spanWord cs).2 = [] →
      dangles (spanWord cs).1 = false ∧ ∀ d ∈ ds.head?, endsWord d = true) :
    spanWord (cs ++ ds) = ((spanWord cs).1, (spanWord cs).2 ++ ds) := by
  fun_induction spanWord cs with
  | case1 =>
    cases ds with
    | nil => rfl
    | cons d ds => exact spanWord_of_endsWord ((h rfl).2 d rfl) ds
  | case2 => exact absurd (h rfl).1 (by simp [dangles])
  | case3 c cs ih =>
    have ih := ih (by simpa [dangles_pair] using h)
    rw [List.cons_append, List.cons_append, spanWord_pair, ih]
    rfl
  | case4 c cs hc he => exact spanWord_of_endsWord he (cs ++ ds)
  | case5 c cs hc he ih =>
    have he : endsWord c = false := by simpa using he
    have ih := ih (by simpa [dangles_char hc] using h)
    rw [List.cons_append, spanWord_char hc he, ih]
    rfl

theorem spanQuoted_append_of_closed {quote : Char} {cs rest : List Char}
    (h : (spanQuoted quote cs).2 = some rest) (ds : List Char) :
    spanQuoted quote (cs ++ ds) = ((spanQuoted quote cs).1, some (rest ++ ds)) := by
  fun_induction spanQuoted quote cs with
  | case1 => simp at h
  | case2 cs =>
    obtain rfl : cs = rest := by simpa using h
    exact spanQuoted_quote quote (cs ++ ds)
  | case3 => simp at h
  | case4 c cs hq ih =>
    rw [List.cons_append, List.cons_append, spanQuoted_pair (Ne.symm hq), ih (by simpa using h)]
    rfl
  | case5 c cs hq hc ih =>
    rw [List.cons_append, spanQuoted_char hq hc, ih (by simpa using h)]
    rfl

/-! ## Symbols in a longer text -/

section Doublings

variable {d : Char} {one two : Symbol}

theorem mem_doublings_iff : (d, one, two) ∈ doublings ↔
    (d = '|' ∧ one = .connective .pipeline ∧ two = .connective .or) ∨
    (d = '&' ∧ one = .background ∧ two = .connective .and) ∨
    (d = '>' ∧ one = .redirect .output ∧ two = .redirect .append) := by
  simp [doublings]

/-- One mark and two of it are the texts of the two symbols. -/
theorem text_of_mem_doublings (h : (d, one, two) ∈ doublings) :
    one.text.toList = [d] ∧ two.text.toList = [d, d] := by
  rcases mem_doublings_iff.mp h with ⟨rfl, rfl, rfl⟩ | ⟨rfl, rfl, rfl⟩ | ⟨rfl, rfl, rfl⟩ <;>
    exact ⟨rfl, rfl⟩

theorem endsWord_of_mem_doublings (h : (d, one, two) ∈ doublings) : endsWord d = true := by
  rcases mem_doublings_iff.mp h with ⟨rfl, -⟩ | ⟨rfl, -⟩ | ⟨rfl, -⟩ <;> decide

end Doublings

namespace Symbol

variable {d : Char} {one two : Symbol}

theorem munch?_two (h : (d, one, two) ∈ doublings) (cs : List Char) :
    munch? (d :: d :: cs) = some (two, cs) := by
  rcases mem_doublings_iff.mp h with ⟨rfl, -, rfl⟩ | ⟨rfl, -, rfl⟩ | ⟨rfl, -, rfl⟩ <;> rfl

theorem munch?_one (h : (d, one, two) ∈ doublings) {cs : List Char} (hcs : cs.head? ≠ some d) :
    munch? (d :: cs) = some (one, cs) := by
  rcases mem_doublings_iff.mp h with ⟨rfl, rfl, -⟩ | ⟨rfl, rfl, -⟩ | ⟨rfl, rfl, -⟩ <;>
    · unfold munch?
      split <;> simp_all

theorem munch?_append {cs rest : List Char} {mark : Symbol} (h : munch? cs = some (mark, rest))
    (ds : List Char) (hds : rest = [] → ∀ d ∈ ds.head?, ∀ two, (d, mark, two) ∉ doublings) :
    munch? (cs ++ ds) = some (mark, rest ++ ds) := by
  -- a symbol of one character is read as one because of the character after it
  have single : ∀ d two, (d, mark, two) ∈ doublings → (∀ cs, rest = d :: cs → False) →
      munch? (d :: (rest ++ ds)) = some (mark, rest ++ ds) := by
    intro d two hd hrest
    refine munch?_one hd fun he => ?_
    cases rest with
    | nil => exact hds rfl d he two hd
    | cons c rest => exact hrest rest (by simpa using he)
  unfold munch? at h
  split at h <;> simp only [reduceCtorEq, Option.some.injEq, Prod.mk.injEq] at h <;>
    obtain ⟨rfl, rfl⟩ := h
  case h_2 hne => exact single '|' (.connective .or) (by decide) hne
  case h_4 hne => exact single '&' (.connective .and) (by decide) hne
  case h_6 hne => exact single '>' (.redirect .append) (by decide) hne
  all_goals rfl

end Symbol

/-! ## Lexemes in a longer text -/

namespace Lexeme

theorem ofWord_of_not_isQuote {c : Char} (hc : isQuote c = false) (cs : List Char) :
    ofWord c cs = (word (spanWord (c :: cs)).1, (spanWord (c :: cs)).2) := by
  rw [ofWord, if_neg (by simp [hc])]

theorem ofWord_of_closing {c : Char} (hc : isQuote c = true) {cs rest : List Char}
    (h : (spanQuoted c cs).2 = some rest) :
    ofWord c cs = (quoted c (spanQuoted c cs).1 true, rest) := by
  rw [ofWord, if_pos hc]
  split
  · next written rest' hs => simp_all
  · next written hs => simp_all

theorem ofWord_of_not_closing {c : Char} (hc : isQuote c = true) {cs : List Char}
    (h : (spanQuoted c cs).2 = none) :
    ofWord c cs = (quoted c (spanQuoted c cs).1 false, []) := by
  rw [ofWord, if_pos hc]
  split
  · next written rest' hs => simp_all
  · next written hs => simp_all

theorem ofWord_append {c : Char} {cs ds : List Char} (hopen : (ofWord c cs).1.isOpen = false)
    (hds : (ofWord c cs).2 = [] → ∀ d ∈ ds.head?, endsWord d = true) :
    ofWord c (cs ++ ds) = ((ofWord c cs).1, (ofWord c cs).2 ++ ds) := by
  cases hq : isQuote c with
  | false =>
    rw [ofWord_of_not_isQuote hq] at hopen hds ⊢
    rw [ofWord_of_not_isQuote hq, ← List.cons_append,
      spanWord_append_of_closed fun hrest => ⟨hopen, hds hrest⟩]
  | true =>
    cases hs : (spanQuoted c cs).2 with
    | none =>
      rw [ofWord_of_not_closing hq hs] at hopen
      exact absurd hopen (by simp [isOpen])
    | some rest =>
      have hs' := spanQuoted_append_of_closed hs ds
      rw [ofWord_of_closing hq hs, ofWord_of_closing hq (congrArg Prod.snd hs'), hs']

/-- A word or a span starts with a character that is neither blank nor starts a symbol. -/
theorem next?_eq_ofWord {c : Char} (hc : endsWord c = false) (cs : List Char) :
    next? (c :: cs) = some (ofWord c cs) := by
  simp only [endsWord, Bool.or_eq_false_iff, beq_eq_false_iff_ne] at hc
  have hm : Symbol.munch? (c :: cs) = none := Symbol.munch?_cons_eq_none_iff.mpr ⟨hc.2, hc.1.2⟩
  rw [next?, if_neg (by simp [hc.1.1]), hm]

theorem next?_of_munch? {cs rest : List Char} {mark : Symbol}
    (h : Symbol.munch? cs = some (mark, rest)) : next? cs = some (symbol mark, rest) := by
  cases cs with
  | nil => simp [Symbol.munch?] at h
  | cons c cs =>
    by_cases hb : isBlank c = true
    · have hnone : Symbol.munch? (c :: cs) = none := by
        rw [Symbol.munch?_cons_eq_none_iff]
        simp only [isBlank, Bool.or_eq_true, beq_iff_eq] at hb
        rcases hb with (((rfl | rfl) | rfl) | rfl) | rfl <;> decide
      rw [hnone] at h
      exact absurd h (by simp)
    · rw [next?, if_neg hb, h]

theorem next?_append_of_blank {cs : List Char} (h : ∀ c ∈ cs, isBlank c = true) (ds : List Char) :
    next? (cs ++ ds) = next? ds := by
  induction cs with
  | nil => rfl
  | cons c cs ih =>
    rw [List.cons_append, next?, if_pos (h c List.mem_cons_self)]
    exact ih fun d hd => h d (List.mem_cons_of_mem c hd)

/-- **What reading one lexeme can be**: after some blanks, a symbol is read, or else a word or a
span. -/
theorem next?_cases {cs rest : List Char} {l : Lexeme} (h : next? cs = some (l, rest)) :
    ∃ skipped c ds, cs = skipped ++ c :: ds ∧ (∀ b ∈ skipped, isBlank b = true) ∧
      ((∃ mark, l = symbol mark ∧ Symbol.munch? (c :: ds) = some (mark, rest)) ∨
        (endsWord c = false ∧ ofWord c ds = (l, rest))) := by
  induction cs with
  | nil => simp [next?] at h
  | cons c cs ih =>
    unfold next? at h
    split at h
    · next hb =>
      obtain ⟨skipped, d, ds, rfl, hblank, hread⟩ := ih h
      exact ⟨c :: skipped, d, ds, rfl, List.forall_mem_cons.mpr ⟨hb, hblank⟩, hread⟩
    · next hb =>
      refine ⟨[], c, cs, rfl, by simp, ?_⟩
      split at h
      · next mark r hm =>
        obtain ⟨rfl, rfl⟩ : symbol mark = l ∧ r = rest := by simpa using h
        exact .inl ⟨mark, rfl, hm⟩
      · next hm =>
        rw [Symbol.munch?_cons_eq_none_iff] at hm
        exact .inr ⟨by simp [endsWord, hb, hm], Option.some.inj h⟩

/-- The first lexeme of a text is the first one of a longer text, if it is not open and, should it
end with the text, what follows ends words and does not double it. -/
theorem next?_append {cs rest ds : List Char} {l : Lexeme} (h : next? cs = some (l, rest))
    (hopen : l.isOpen = false)
    (hds : rest = [] → ∀ d ∈ ds.head?, endsWord d = true ∧
      ∀ one two, (d, one, two) ∈ doublings → l ≠ symbol one) :
    next? (cs ++ ds) = some (l, rest ++ ds) := by
  obtain ⟨skipped, c, es, rfl, hblank, hread⟩ := next?_cases h
  rw [List.append_assoc, next?_append_of_blank hblank, List.cons_append]
  rcases hread with ⟨mark, rfl, hm⟩ | ⟨hc, hw⟩
  · exact next?_of_munch? (Symbol.munch?_append hm ds fun hr d hd two htwo =>
      (hds hr d hd).2 mark two htwo rfl)
  · have hw' : ofWord c (es ++ ds) = ((ofWord c es).1, (ofWord c es).2 ++ ds) :=
      ofWord_append (by rwa [hw]) fun hnil d hd => (hds (by rwa [hw] at hnil) d hd).1
    rw [next?_eq_ofWord hc, hw', hw]

end Lexeme

/-! ## Whole texts -/

theorem lexemes_congr {cs ds : List Char} (h : Lexeme.next? cs = Lexeme.next? ds) :
    lexemes cs = lexemes ds := by
  cases hn : Lexeme.next? ds with
  | none => rw [lexemes_of_next?_eq_none hn, lexemes_of_next?_eq_none (h.trans hn)]
  | some p => rw [lexemes_of_next? hn, lexemes_of_next? (h.trans hn)]

theorem lexemes_of_blank {cs : List Char} (h : ∀ c ∈ cs, isBlank c = true) : lexemes cs = [] :=
  lexemes_of_next?_eq_none (Lexeme.next?_eq_none_iff.mpr h)

theorem lexemes_append_of_blank {cs : List Char} (h : ∀ c ∈ cs, isBlank c = true)
    (ds : List Char) : lexemes (cs ++ ds) = lexemes ds :=
  lexemes_congr (Lexeme.next?_append_of_blank h ds)

theorem getLast?_of_next? {cs rest : List Char} {l : Lexeme}
    (h : Lexeme.next? cs = some (l, rest)) (hrest : rest ≠ []) :
    cs.getLast? = rest.getLast? := by
  rw [Lexeme.next?_text h, List.getLast?_append, List.getLast?_eq_some_getLast hrest]
  rfl

/-- A symbol that doubles is not read past the end of a text only if it ends the text. -/
theorem doubles_of_next? {cs : List Char} {d : Char} {one two : Symbol}
    (hd : (d, one, two) ∈ doublings) (h : Lexeme.next? cs = some (.symbol one, [])) :
    Doubles cs d := by
  refine ⟨one, two, hd, ?_, ?_⟩
  · rw [Lexeme.next?_text h, Lexeme.text, (text_of_mem_doublings hd).1]
    simp
  · rw [lexemes_of_next? h, lexemes_of_blank (by simp)]
    rfl

theorem Doubles.of_next? {cs rest : List Char} {l : Lexeme} {d : Char}
    (h : Lexeme.next? cs = some (l, rest)) (hd : Doubles rest d) : Doubles cs d := by
  obtain ⟨one, two, htwo, hlast, hsymbol⟩ := hd
  have hrest : rest ≠ [] := by
    rintro rfl
    simp at hlast
  have hne : lexemes rest ≠ [] := by
    intro hnil
    rw [hnil] at hsymbol
    simp at hsymbol
  refine ⟨one, two, htwo, (getLast?_of_next? h hrest).trans hlast, ?_⟩
  rw [lexemes_of_next? h, List.getLast?_cons_of_ne_nil hne, hsymbol]

/-- **Cutting**: a closed text and what is cut off after it are read on their own. -/
theorem lexemes_append {cs ds : List Char} (hclosed : Closed cs) (hds : Separates cs ds) :
    lexemes (cs ++ ds) = lexemes cs ++ lexemes ds := by
  fun_induction lexemes cs with
  | case1 cs hn => exact lexemes_append_of_blank (Lexeme.next?_eq_none_iff.mp hn) ds
  | case2 cs l rest hn ih =>
    have hls := lexemes_of_next? hn
    have hopen : l.isOpen = false := hclosed l (by rw [hls]; exact List.mem_cons_self)
    have hrest : Closed rest := fun k hk => hclosed k (by rw [hls]; exact List.mem_cons_of_mem l hk)
    have hsep : Separates rest ds := fun d hd =>
      ⟨(hds d hd).1, fun h => (hds d hd).2 (h.of_next? hn)⟩
    have hfirst : Lexeme.next? (cs ++ ds) = some (l, rest ++ ds) := by
      refine Lexeme.next?_append hn hopen fun hr d hd => ⟨(hds d hd).1, ?_⟩
      rintro one two htwo rfl
      subst hr
      exact (hds d hd).2 (doubles_of_next? htwo hn)
    rw [lexemes_of_next? hfirst, List.cons_append, ih hrest hsep]

/-! ## Rows of one mark -/

section Runs

variable {d : Char} {one two : Symbol}

/-- **A row of one mark** is read in pairs, and a last one alone if their number is odd. -/
theorem lexemes_run (h : (d, one, two) ∈ doublings) {after : List Char}
    (hafter : after.head? ≠ some d) (n : Nat) :
    lexemes (List.replicate n d ++ after) =
      List.replicate (n / 2) (.symbol two) ++ List.replicate (n % 2) (.symbol one) ++
        lexemes after := by
  induction n using Nat.twoStepInduction with
  | zero => rfl
  | one =>
    exact lexemes_of_next? (Lexeme.next?_of_munch? (Symbol.munch?_one h hafter))
  | more n ih _ =>
    have htwo : Lexeme.next? (d :: d :: (List.replicate n d ++ after)) =
        some (.symbol two, List.replicate n d ++ after) :=
      Lexeme.next?_of_munch? (Symbol.munch?_two h _)
    rw [List.replicate_succ, List.replicate_succ, List.cons_append, List.cons_append,
      lexemes_of_next? htwo, ih, show (n + 2) / 2 = n / 2 + 1 by omega,
      show (n + 2) % 2 = n % 2 by omega, List.replicate_succ]
    rfl

end Runs

end LineShell
