import LineShell.Proofs.Rendering

/-!
# When a rendered tree reads back

A tree reads back from its rendering exactly if its words are plain, it has the parser's shape and
no node is marked as running in the background.

One direction is `reads_render` and the grammar. For the other one the words of the tree might be
anything, and a reading need not follow the rendering at all. Here characters are counted. A text
has at least the characters of its tokens; what it has more, blanks apart, are its quotes and
escaping backslashes. A rendered tree has the characters of its tokens and some blanks. If the tree
reads back, these tokens are the same up to their order, so the text has no quote, no escape and no
background mark, and all its words are plain.

Results:
* `exists_surplus`: the characters of any text, and what follows if there are no quotes and escapes.
* `plain_of_spaced`: a text with the characters of its tokens, and blanks, has plain words.
* `plain_of_parse_render`: a tree that reads back has plain words and no mark at its root.
* **`parse_render_eq_ok_iff`**: the exact conditions for a round trip.
-/

namespace LineShell

open Grammar

/-! ## Characters of tokens -/

/-- The characters that a token stands for. -/
def Token.chars (t : Token) : List Char :=
  (t.fixedText?.getD t.value).toList

@[simp] theorem Token.chars_word (w : String) : (Token.word w).chars = w.toList := rfl

@[simp] theorem Token.chars_symbol (mark : Symbol) :
    (Token.symbol mark).chars = mark.text.toList := rfl

/-- What is written has the characters of the value, and a backslash for each escape. -/
theorem Spelling.exists_surplus {plain : Char → Prop} {written value : List Char} {whole : Bool}
    (h : Spelling plain written value whole) :
    ∃ n, written.Perm (List.replicate n '\\' ++ value) ∧
      (n = 0 → written = value ∧ ∀ c ∈ value, plain c ∧ c ≠ '\\') := by
  induction h with
  | done => exact ⟨0, .refl _, fun _ => ⟨rfl, by simp⟩⟩
  | lone => exact ⟨1, .refl _, fun h => absurd h (by decide)⟩
  | @char c written value _ hc hplain _ ih =>
    obtain ⟨n, hperm, hnone⟩ := ih
    refine ⟨n, (hperm.cons c).trans List.perm_middle.symm, fun hn => ?_⟩
    obtain ⟨rfl, hall⟩ := hnone hn
    exact ⟨rfl, List.forall_mem_cons.mpr ⟨⟨hplain, hc⟩, hall⟩⟩
  | @pair written value _ c _ ih =>
    obtain ⟨n, hperm, -⟩ := ih
    exact ⟨n + 1, ((hperm.cons c).trans List.perm_middle.symm).cons _, fun h => absurd h (by simp)⟩

theorem ne_blank_of_mem_quotes {q : Char} (h : q ∈ quotes) : q ≠ ' ' := by
  rintro rfl
  exact absurd h (by decide)

/-- A piece has the characters of its token, and quotes and backslashes. If it has none of these,
and is a word, it is a plain one. -/
theorem Piece.exists_surplus {text rest : List Char} {token : Token} (h : Piece text token rest) :
    ∃ extra, text.Perm (extra ++ token.chars) ∧ ' ' ∉ extra ∧
      (extra = [] → ∀ w, token = .word w → PlainWord w) := by
  cases h with
  | symbol mark rest => exact ⟨[], .refl _, by simp, by simp⟩
  | run hne hquote hs _ =>
    obtain ⟨n, hperm, hnone⟩ := hs.exists_surplus
    refine ⟨List.replicate n '\\', by simpa using hperm, by simp, ?_⟩
    rintro hn w hw
    obtain ⟨rfl, hall⟩ := hnone (by simpa using hn)
    obtain rfl : String.ofList text = w := by simpa using hw
    exact ⟨by simpa using hne, by simpa using hall, by simpa using hquote⟩
  | @closedSpan q written value rest hq hs =>
    obtain ⟨n, hperm, -⟩ := hs.exists_surplus
    refine ⟨q :: q :: List.replicate n '\\', ?_, ?_, by simp⟩
    · have hmove : (written ++ [q]).Perm (q :: written) := List.perm_append_singleton q written
      simpa using hmove.trans (hperm.cons q)
    · simpa using (ne_blank_of_mem_quotes hq).symm
  | @openSpan q written value whole hq hs =>
    obtain ⟨n, hperm, -⟩ := hs.exists_surplus
    refine ⟨q :: List.replicate n '\\', ?_, ?_, by simp⟩
    · simpa using hperm
    · simpa using (ne_blank_of_mem_quotes hq).symm

/-- **The characters of a text** are those of its tokens, the blanks that are skipped, and others
that are no blanks `' '`. If there are no others, all its words are plain. -/
theorem exists_surplus (cs : List Char) :
    ∃ skipped extra,
      cs.Perm (skipped ++ extra ++ ((lexemes cs).map Lexeme.token).flatMap Token.chars) ∧
      ' ' ∉ extra ∧
      (extra = [] → ∀ w, .word w ∈ (lexemes cs).map Lexeme.token → PlainWord w) := by
  fun_induction lexemes cs with
  | case1 cs hn => exact ⟨cs, [], by simp, by simp, by simp⟩
  | case2 cs l rest hn ih =>
    obtain ⟨skipped, more, hrest, hblank, hplain⟩ := ih
    obtain ⟨extra, hl, hblank', hplain'⟩ := (piece_of_next? hn).exists_surplus
    refine ⟨cs.takeWhile isBlank ++ skipped, extra ++ more, ?_, by simp [hblank, hblank'], ?_⟩
    · rw [List.perm_iff_count] at hrest hl ⊢
      intro c
      have htext := congrArg (List.count c) (Lexeme.next?_text hn)
      have hrest := hrest c
      have hl := hl c
      simp only [List.count_append, List.map_cons, List.flatMap_cons] at htext hrest hl ⊢
      omega
    · intro hnone w hw
      obtain ⟨rfl, rfl⟩ := List.append_eq_nil_iff.mp hnone
      rw [List.map_cons, List.mem_cons] at hw
      rcases hw with hw | hw
      · exact hplain' rfl w hw.symm
      · exact hplain rfl w hw

/-! ## Characters of a rendered tree -/

/-- The text has the characters of the tokens, and blanks. -/
def Spaced (cs : List Char) (ts : List Token) : Prop :=
  ∃ n, cs.Perm (List.replicate n ' ' ++ ts.flatMap Token.chars)

theorem Spaced.append {cs ds : List Char} {ts us : List Token} (h : Spaced cs ts)
    (h' : Spaced ds us) : Spaced (cs ++ ds) (ts ++ us) := by
  obtain ⟨n, hn⟩ := h
  obtain ⟨m, hm⟩ := h'
  refine ⟨n + m, ?_⟩
  rw [List.perm_iff_count] at hn hm ⊢
  intro c
  have hn := hn c
  have hm := hm c
  simp only [List.count_append, List.flatMap_append, ← List.replicate_append_replicate] at hn hm ⊢
  omega

theorem spaced_blank : Spaced [' '] [] :=
  ⟨1, .refl _⟩

theorem spaced_token (t : Token) : Spaced t.chars [t] :=
  ⟨0, by simp⟩

theorem spaced_separator (op : Connective) :
    Spaced op.separator.toList [.symbol (.connective op)] := by
  cases op with
  | sequence => exact ⟨1, by decide⟩
  | _ => exact ⟨2, by decide⟩

theorem joins_spaced : Joins Spaced where
  redirect kind _ _ h := (spaced_token (.symbol (.redirect kind))).append (spaced_blank.append h)
  blank h h' := h.append (spaced_blank.append h')
  separator op _ _ _ _ h h' := h.append ((spaced_separator op).append h')

theorem spaced_render (c : Command) : Spaced c.render.toList c.tokens :=
  joins_spaced.render fun w _ => spaced_token (.word w)

/-! ## Round trips -/

/-- Trees with plain words, of the parser's shape and without background marks read back. -/
theorem parse_render_of_plain {c : Command} (hp : c.Plain) (hf : c.Foreground) (hs : c.Shaped) :
    parse c.render = .ok c := by
  rw [parse_eq_ok_iff_line, (reads_render hp).tokens_eq]
  exact .foreground (sequence_of_shaped hs hf hp.name_ne_empty)

/-- **A text with the characters of its tokens, and blanks, and no others** has no quotes and no
escapes, so all its words are plain. The tokens `us` that it has more can only stand for blanks. -/
theorem plain_of_spaced {cs : List Char} {ts us : List Token} (hspaced : Spaced cs ts)
    (hperm : ((lexemes cs).map Lexeme.token).Perm (ts ++ us)) :
    (∀ w, .word w ∈ ts → PlainWord w) ∧ ∀ a ∈ us.flatMap Token.chars, a = ' ' := by
  obtain ⟨n, hspaced⟩ := hspaced
  obtain ⟨skipped, extra, htext, hblank, hplain⟩ := exists_surplus cs
  have htokens : (((lexemes cs).map Lexeme.token).flatMap Token.chars).Perm
      (us.flatMap Token.chars ++ ts.flatMap Token.chars) := by
    refine (hperm.flatMap_right Token.chars).trans ?_
    rw [List.flatMap_append]
    exact List.perm_append_comm
  -- the characters of the tokens cancel out, and only blanks are left
  have hrest : (skipped ++ extra ++ us.flatMap Token.chars).Perm (List.replicate n ' ') := by
    refine (List.perm_append_right_iff (ts.flatMap Token.chars)).mp ?_
    rw [List.append_assoc]
    exact (htokens.symm.append_left _).trans (htext.symm.trans hspaced)
  have hblanks : ∀ a ∈ skipped ++ extra ++ us.flatMap Token.chars, a = ' ' :=
    fun a ha => List.eq_of_mem_replicate (hrest.mem_iff.mp ha)
  have hextra : extra = [] := by
    refine List.eq_nil_iff_forall_not_mem.mpr fun a ha => hblank ?_
    rwa [← hblanks a (List.mem_append_left _ (List.mem_append_right _ ha))]
  exact ⟨fun w hw => hplain hextra w (hperm.mem_iff.mpr (List.mem_append_left _ hw)),
    fun a ha => hblanks a (List.mem_append_right _ ha)⟩

/-- **A tree that reads back** has plain words and no mark at its root. -/
theorem plain_of_parse_render {c : Command} (h : parse c.render = .ok c) :
    c.Plain ∧ c.isBackground = false := by
  obtain ⟨hplain, hblanks⟩ :=
    plain_of_spaced (spaced_render c) (parse_eq_ok_iff_line.mp h).perm_tokens
  refine ⟨fun w hw => hplain w (Command.mem_tokens_of_mem_words hw), ?_⟩
  cases hb : c.isBackground with
  | false => rfl
  | true => exact absurd (hblanks '&' (by rw [hb]; decide)) (by decide)

/-- **Exactly these trees read back** from their rendering: the words are plain, no node is marked,
and the tree has the parser's shape. The tree of a line reads back, but for the mark at its root,
exactly if its words are plain. -/
theorem parse_render_eq_ok_iff :
    (∀ c : Command, parse c.render = .ok c ↔ c.Plain ∧ c.Foreground ∧ c.Shaped) ∧
    ∀ (line : String) (c : Command), parse line = .ok c →
      (parse c.render = .ok (c.setBackground false) ↔ c.Plain) := by
  have exact_conditions : ∀ c : Command,
      parse c.render = .ok c ↔ c.Plain ∧ c.Foreground ∧ c.Shaped := by
    refine fun c => ⟨fun h => ?_, fun ⟨hp, hf, hs⟩ => parse_render_of_plain hp hf hs⟩
    obtain ⟨hp, hb⟩ := plain_of_parse_render h
    obtain ⟨hs, hf⟩ := (parse_eq_ok_iff_line.mp h).shaped
    rw [Command.setBackground_eq_self hb] at hf
    exact ⟨hp, hf, hs⟩
  refine ⟨exact_conditions, fun line c h => ?_⟩
  obtain ⟨hs, hf⟩ := (parse_eq_ok_iff_line.mp h).shaped
  have hcleared := exact_conditions (c.setBackground false)
  rw [Command.render_setBackground, Command.shaped_setBackground] at hcleared
  rw [hcleared, and_iff_left ⟨hf, hs⟩, Command.Plain, Command.words_setBackground, Command.Plain]

/-- The mark of `cat < 'in' | sort &` is lost, and nothing else; with `cat < 'a b'` for the first
command, more is lost. -/
theorem render_of_quoted_target :
    let line (target : String) : Command :=
      .node .pipeline (.simple ⟨"cat", [], [⟨.input, target⟩]⟩ false)
        (.simple ⟨"sort", [], []⟩ false) true
    parse (line "in").render = .ok ((line "in").setBackground false) ∧
      parse (line "a b").render ≠ .ok ((line "a b").setBackground false) := by
  intro line
  have hin : parse "cat < 'in' | sort &" = .ok (line "in") := by cbv
  have hspace : parse "cat < 'a b' | sort &" = .ok (line "a b") := by cbv
  refine ⟨(parse_render_eq_ok_iff.2 _ _ hin).mpr (by decide), fun h => ?_⟩
  exact absurd ((parse_render_eq_ok_iff.2 _ _ hspace).mp h) (by decide)

end LineShell
