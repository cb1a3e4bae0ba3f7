import LineShell.Proofs.Joining

/-!
# Where a text can be cut

A closed text can be cut off in front of a blank, a line break or a semicolon (`lexemes_append`). An
open one cannot: its last lexeme takes the character after the cut, and more, into its value, be it
a quoted span that goes on or a backslash that now has something to escape. So nothing but an open
end leaks over such a cut, and an open end always does.

Results:
* `Lexeme.token_ne_of_isOpen`: an open lexeme has another value in a longer text.
* `closed_iff_tokens_append`: the tokens of a text that is cut are those of its parts exactly if the
  first part is closed.
* **`tokenize_append_iff_closed`**: the same for whole lines, at a blank, a line break and a
  semicolon.
-/

namespace LineShell

/-! ## Spans that go on -/

section Spans

variable {d : Char}

/-- A word that dangles escapes the next character and goes on. -/
theorem spanWord_append_of_dangles {cs : List Char} (h : dangles (spanWord cs).1 = true)
    (ds : List Char) :
    spanWord (cs ++ d :: ds) = ((spanWord cs).1 ++ d :: (spanWord ds).1, (spanWord ds).2) := by
  fun_induction spanWord cs with
  | case1 => simp [dangles] at h
  | case2 => exact spanWord_pair d ds
  | case3 c cs ih =>
    have ih := ih (by simpa [dangles_pair] using h)
    rw [List.cons_append, List.cons_append, spanWord_pair, ih]
    rfl
  | case4 => simp [dangles] at h
  | case5 c cs hc he ih =>
    have he : endsWord c = false := by simpa using he
    have ih := ih (by simpa [dangles_char hc] using h)
    rw [List.cons_append, spanWord_char hc he, ih]
    rfl

/-- A quoted span without its second quote takes the next character and goes on. -/
theorem spanQuoted_append_of_not_closed {q : Char} (hdq : d ≠ q) (hd : d ≠ '\\') (hq : q ≠ '\\')
    {cs : List Char} (h : (spanQuoted q cs).2 = none) (ds : List Char) :
    spanQuoted q (cs ++ d :: ds) =
      ((spanQuoted q cs).1 ++ d :: (spanQuoted q ds).1, (spanQuoted q ds).2) := by
  fun_induction spanQuoted q cs with
  | case1 => exact spanQuoted_char hdq hd ds
  | case2 => simp at h
  | case3 => exact spanQuoted_pair hq d ds
  | case4 c cs _ ih =>
    rw [List.cons_append, List.cons_append, spanQuoted_pair hq, ih (by simpa using h)]
    rfl
  | case5 c cs hne hc ih =>
    rw [List.cons_append, spanQuoted_char hne hc, ih (by simpa using h)]
    rfl

/-- What is written around an ordinary character keeps its value, also if the character is escaped
now. -/
theorem unescape_append_cons (hd : d ≠ '\\') (cs ds : List Char) :
    unescape (cs ++ d :: ds) = unescape cs ++ d :: unescape ds := by
  fun_induction unescape cs with
  | case1 => exact unescape_char hd ds
  | case2 => exact unescape_pair d ds
  | case3 c cs ih => rw [List.cons_append, List.cons_append, unescape_pair, ih, List.cons_append]
  | case4 c cs hc ih => rw [List.cons_append, unescape_char hc, ih, List.cons_append]

end Spans

namespace Lexeme

variable {d : Char}

theorem isOpen_ofWord_iff {c : Char} {cs : List Char} : (ofWord c cs).1.isOpen = true ↔
    if isQuote c then (spanQuoted c cs).2 = none else dangles (spanWord (c :: cs)).1 = true := by
  cases hq : isQuote c with
  | false => rw [ofWord_of_not_isQuote hq]; rfl
  | true =>
    cases hs : (spanQuoted c cs).2 with
    | none => rw [ofWord_of_not_closing hq hs]; simp [isOpen]
    | some rest => rw [ofWord_of_closing hq hs]; simp [isOpen]

/-- The value of an open word or span grows by what follows it. -/
theorem token_ofWord_of_isOpen {c : Char} {cs : List Char} (hopen : (ofWord c cs).1.isOpen = true)
    (hd : endsWord d = true) (ds : List Char) :
    ∃ value more, (ofWord c cs).1.token = .word (String.ofList value) ∧
      (ofWord c (cs ++ d :: ds)).1.token = .word (String.ofList (value ++ d :: more)) := by
  have hslash := ne_backslash_of_endsWord hd
  rw [isOpen_ofWord_iff] at hopen
  cases hq : isQuote c with
  | false =>
    rw [hq, if_neg Bool.false_ne_true] at hopen
    have hspan := spanWord_append_of_dangles (d := d) hopen ds
    rw [List.cons_append] at hspan
    rw [ofWord_of_not_isQuote hq, ofWord_of_not_isQuote hq, hspan]
    exact ⟨_, _, rfl, by rw [token, unescape_append_cons hslash]⟩
  | true =>
    rw [hq, if_pos rfl] at hopen
    have hmem := isQuote_iff.mp hq
    have hne : d ≠ c := by
      rintro rfl
      rw [endsWord_of_mem_quotes hmem] at hd
      exact Bool.false_ne_true hd
    have hspan := spanQuoted_append_of_not_closed hne hslash (ne_backslash_of_mem_quotes hmem)
      hopen ds
    refine ⟨_, unescape (spanQuoted c ds).1, by rw [ofWord_of_not_closing hq hopen, token], ?_⟩
    rw [← unescape_append_cons hslash]
    cases hrest : (spanQuoted c ds).2 with
    | none => rw [ofWord_of_not_closing hq (by rw [hspan, hrest]), token, hspan]
    | some rest => rw [ofWord_of_closing hq (by rw [hspan, hrest]), token, hspan]

/-- **An open lexeme has another value in a longer text.** -/
theorem token_ne_of_isOpen {cs rest : List Char} {l : Lexeme} (h : next? cs = some (l, rest))
    (hopen : l.isOpen = true) (hd : endsWord d = true) (ds : List Char) :
    ∃ l' rest', next? (cs ++ d :: ds) = some (l', rest') ∧ l'.token ≠ l.token := by
  obtain ⟨skipped, c, es, rfl, hblank, ⟨mark, rfl, -⟩ | ⟨hc, hw⟩⟩ := next?_cases h
  · simp [isOpen] at hopen
  · have hread : next? (skipped ++ c :: es ++ d :: ds) = some (ofWord c (es ++ d :: ds)) := by
      rw [List.append_assoc, next?_append_of_blank hblank, List.cons_append, next?_eq_ofWord hc]
    obtain ⟨value, more, hvalue, hmore⟩ :=
      @token_ofWord_of_isOpen d c es (by rwa [hw]) hd ds
    refine ⟨(ofWord c (es ++ d :: ds)).1, (ofWord c (es ++ d :: ds)).2, hread, ?_⟩
    rw [hw] at hvalue
    rw [hmore, hvalue]
    simp

end Lexeme

/-! ## Cuts -/

/-- **Closed texts are those that can be cut off** in front of a character that ends words and
doubles no symbol. -/
theorem closed_iff_tokens_append {d : Char} (hd : endsWord d = true)
    (hone : d ∉ doublings.map Prod.fst) (cs ds : List Char) :
    Closed cs ↔ (lexemes (cs ++ d :: ds)).map Lexeme.token =
      (lexemes cs).map Lexeme.token ++ (lexemes (d :: ds)).map Lexeme.token := by
  constructor
  · intro h
    rw [lexemes_append h (separates_cons hd hone cs ds), List.map_append]
  · intro h
    fun_induction lexemes cs with
    | case1 cs hn =>
      rw [Closed, lexemes_of_next?_eq_none hn]
      simp
    | case2 cs l rest hn ih =>
      cases hopen : l.isOpen with
      | true =>
        obtain ⟨l', rest', hn', hne⟩ := Lexeme.token_ne_of_isOpen hn hopen hd ds
        rw [lexemes_of_next? hn', List.map_cons, List.map_cons, List.cons_append] at h
        exact absurd (List.cons.inj h).1 hne
      | false =>
        have hfirst : Lexeme.next? (cs ++ d :: ds) = some (l, rest ++ d :: ds) := by
          refine Lexeme.next?_append hn hopen fun _ c hc => ?_
          obtain rfl : d = c := by simpa using hc
          refine ⟨hd, fun one two htwo _ => hone ?_⟩
          exact List.mem_map.mpr ⟨(d, one, two), htwo, rfl⟩
        rw [lexemes_of_next? hfirst, List.map_cons, List.map_cons, List.cons_append] at h
        rw [Closed, lexemes_of_next? hn]
        exact List.forall_mem_cons.mpr ⟨hopen, ih (List.cons.inj h).2⟩

/-- A line can be cut in front of such a character exactly if it is closed; `between` is what the
character is read as. -/
theorem tokenize_append_iff {d : Char} (hd : endsWord d = true)
    (hone : d ∉ doublings.map Prod.fst) {between : List Token} (s : String) {t : String}
    (hbetween : (lexemes (d :: t.toList)).map Lexeme.token = between ++ lineTokens t) :
    tokenize (s ++ String.singleton d ++ t) = (tokenize s).dropLast ++ between ++ tokenize t ↔
      Closed s.toList := by
  have htext : (s ++ String.singleton d ++ t).toList = s.toList ++ d :: t.toList := by simp
  rw [closed_iff_tokens_append hd hone s.toList t.toList, hbetween]
  simp only [tokenize, tokens, htext, lineTokens, List.dropLast_concat, ← List.append_assoc]
  exact List.append_left_inj _

/-- **Lines can be cut exactly where they are closed.** Put a blank, a line break or a semicolon
between two lines. The tokens of the whole are those of the parts, with the token of the separator
between them if it has one, exactly if the first line is closed. -/
theorem tokenize_append_iff_closed (s t : String) :
    (tokenize (s ++ " " ++ t) = (tokenize s).dropLast ++ tokenize t ↔ Closed s.toList) ∧
    (tokenize (s ++ "\n" ++ t) =
      (tokenize s).dropLast ++ [.symbol .newline] ++ tokenize t ↔ Closed s.toList) ∧
    (tokenize (s ++ ";" ++ t) =
      (tokenize s).dropLast ++ [.symbol (.connective .sequence)] ++ tokenize t ↔
        Closed s.toList) := by
  have hblank : lexemes (' ' :: t.toList) = lexemes t.toList :=
    lexemes_append_of_blank (by simp [isBlank] : ∀ c ∈ [' '], isBlank c = true) t.toList
  have hsymbol {d : Char} {mark : Symbol}
      (h : Symbol.munch? (d :: t.toList) = some (mark, t.toList)) :
      (lexemes (d :: t.toList)).map Lexeme.token = [.symbol mark] ++ lineTokens t := by
    rw [lexemes_of_next? (Lexeme.next?_of_munch? h)]
    rfl
  refine ⟨?_, ?_, ?_⟩
  · have htokens : (lexemes (' ' :: t.toList)).map Lexeme.token = [] ++ lineTokens t := by
      rw [hblank]
      rfl
    have hcut := @tokenize_append_iff ' ' (by decide) (by decide) [] s t htokens
    rwa [List.append_nil] at hcut
  · exact @tokenize_append_iff '\n' (by decide) (by decide) _ s t (hsymbol rfl)
  · exact @tokenize_append_iff ';' (by decide) (by decide) _ s t (hsymbol rfl)

end LineShell
