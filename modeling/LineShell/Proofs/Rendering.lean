import LineShell.Command.Render
import LineShell.Proofs.Segmentation
import LineShell.Proofs.Shape

/-!
# The tokens of a rendered tree

Rendering writes words as they are and joins them with blanks and connectives. What holds of each
word, and is kept by the joins, holds of the rendered tree (`Joins`), also if the words are written
in another form (`Command.mapWords`). So a tree whose words are plain (`PlainWord`) is rendered to a
text that has the tokens of the tree, whatever its shape: none of its words is taken for something
else.

Results:
* `Joins.render_mapWords`: the induction over a rendered tree, its words written in some form.
* `Reads.word`: a plain word is read as it is written.
* **`reads_render`**: a rendered tree with plain words has the tokens of the tree.
-/

namespace LineShell

open Grammar

/-! ## Plain words -/

/-- **A plain word**: it is not empty, it holds no blank, no line break, no mark and no backslash,
and it does not start with a quote. -/
@[mk_iff]
structure PlainWord (w : String) : Prop where
  ne_empty : w ≠ ""
  ordinary : ∀ c ∈ w.toList, c ∉ delimiters ∧ c ≠ '\\'
  unquoted : ∀ c ∈ w.toList.head?, c ∉ quotes

instance : DecidablePred PlainWord := fun w =>
  decidable_of_iff (w ≠ "" ∧ (w.toList.all fun c => c ∉ delimiters ∧ c ≠ '\\') = true ∧
    (w.toList.head?.all (· ∉ quotes)) = true) (by simp [plainWord_iff, Option.all_eq_true])

/-- The name, the arguments and the targets. -/
def SimpleCommand.words (c : SimpleCommand) : List String :=
  c.argv ++ c.redirections.map Redirection.target

/-- All words of a tree. -/
def Command.words (c : Command) : List String :=
  c.leaves.flatMap SimpleCommand.words

/-- All words of the tree are plain. -/
def Command.Plain (c : Command) : Prop :=
  ∀ w ∈ c.words, PlainWord w

instance : DecidablePred Command.Plain := fun c =>
  inferInstanceAs (Decidable (∀ w ∈ c.words, PlainWord w))

@[simp] theorem Command.words_setBackground (b : Bool) (c : Command) :
    (c.setBackground b).words = c.words := by
  rw [words, leaves_setBackground, words]

theorem SimpleCommand.mem_tokens_of_mem_words {c : SimpleCommand} {w : String}
    (h : w ∈ c.words) : .word w ∈ c.tokens := by
  rw [tokens, List.mem_append]
  rcases List.mem_append.mp h with h | h
  · exact .inl (List.mem_map_of_mem h)
  · obtain ⟨r, hr, rfl⟩ := List.mem_map.mp h
    exact .inr (List.mem_flatMap.mpr ⟨r, hr, by simp [Redirection.tokens]⟩)

/-- Every word of a tree is among its tokens. -/
theorem Command.mem_tokens_of_mem_words {c : Command} {w : String} (h : w ∈ c.words) :
    .word w ∈ c.tokens := by
  induction c with
  | simple body background =>
    refine SimpleCommand.mem_tokens_of_mem_words ?_
    simpa [words, leaves] using h
  | node op left right background ihl ihr =>
    rw [words, leaves, List.flatMap_append, List.mem_append] at h
    rw [tokens, List.mem_append, List.mem_cons]
    rcases h with h | h
    · exact .inl (ihl h)
    · exact .inr (.inr (ihr h))

theorem SimpleCommand.mem_words_of_mem_tokens {c : SimpleCommand} {w : String}
    (h : .word w ∈ c.tokens) : w ∈ c.words := by
  rw [tokens, List.mem_append, List.mem_map, List.mem_flatMap] at h
  rw [words, List.mem_append]
  rcases h with ⟨v, hv, hw⟩ | ⟨r, hr, hw⟩
  · obtain rfl : v = w := by simpa using hw
    exact .inl hv
  · obtain rfl : w = r.target := by simpa [Redirection.tokens] using hw
    exact .inr (List.mem_map_of_mem hr)

/-- Every word among the tokens is a word of the tree. -/
theorem Command.mem_words_of_mem_tokens {c : Command} {w : String} (h : .word w ∈ c.tokens) :
    w ∈ c.words := by
  induction c with
  | simple body background =>
    have hbody := SimpleCommand.mem_words_of_mem_tokens h
    simpa [words, leaves] using hbody
  | node op left right background ihl ihr =>
    rw [tokens, List.mem_append, List.mem_cons] at h
    rw [words, leaves, List.flatMap_append, List.mem_append]
    rcases h with h | h | h
    · exact .inl (ihl h)
    · simp at h
    · exact .inr (ihr h)

theorem Command.Plain.name_ne_empty {c : Command} (h : c.Plain) :
    ∀ body ∈ c.leaves, body.name ≠ "" := by
  intro body hb
  refine (h body.name ?_).ne_empty
  exact List.mem_flatMap.mpr ⟨body, hb, by simp [SimpleCommand.words, SimpleCommand.argv]⟩

/-! ## Words in another form -/

def Redirection.mapTarget (f : String → String) (r : Redirection) : Redirection :=
  ⟨r.kind, f r.target⟩

def SimpleCommand.mapWords (f : String → String) (c : SimpleCommand) : SimpleCommand :=
  ⟨f c.name, c.arguments.map f, c.redirections.map (Redirection.mapTarget f)⟩

/-- The tree with `f w` in place of each word `w`. -/
def Command.mapWords (f : String → String) : Command → Command
  | simple body background => simple (body.mapWords f) background
  | node op left right background => node op (left.mapWords f) (right.mapWords f) background

theorem SimpleCommand.mapWords_id (c : SimpleCommand) : c.mapWords id = c := by
  have htarget : Redirection.mapTarget id = id := rfl
  simp [mapWords, htarget]

theorem Command.mapWords_id (c : Command) : c.mapWords id = c := by
  induction c with
  | simple body background => rw [mapWords, body.mapWords_id]
  | node op left right background ihl ihr => rw [mapWords, ihl, ihr]

/-! ## What is kept by rendering -/

section Rendering

variable {R : List Char → List Token → Prop} {f : String → String}

/-- A relation between texts and tokens that is kept by the joins of the rendering. -/
structure Joins (R : List Char → List Token → Prop) : Prop where
  redirect : ∀ kind {cs : List Char} {w : String}, R cs [.word w] →
    R (kind.symbol.toList ++ ' ' :: cs) [.symbol (.redirect kind), .word w]
  blank : ∀ {cs ds ts us}, R cs ts → R ds us → R (cs ++ ' ' :: ds) (ts ++ us)
  separator : ∀ op {cs ds ts us}, R cs ts → R ds us →
    R (cs ++ (op.separator.toList ++ ds)) (ts ++ .symbol (.connective op) :: us)

theorem Joins.intercalate (hR : Joins R) {p : String × List Token}
    {ps : List (String × List Token)} (h : ∀ q ∈ p :: ps, R q.1.toList q.2) :
    R (" ".intercalate ((p :: ps).map Prod.fst)).toList ((p :: ps).flatMap Prod.snd) := by
  induction ps generalizing p with
  | nil => simpa using h p List.mem_cons_self
  | cons q ps ih =>
    have hrest := ih (p := q) fun r hr => h r (List.mem_cons_of_mem p hr)
    have hjoin := hR.blank (h p List.mem_cons_self) hrest
    rw [List.map_cons, List.map_cons, String.intercalate_cons_cons, List.flatMap_cons]
    simpa [List.append_assoc] using hjoin

theorem Joins.render_simple (hR : Joins R) {c : SimpleCommand}
    (h : ∀ w ∈ c.words, R (f w).toList [.word w]) : R (c.mapWords f).render.toList c.tokens := by
  let pieces : List (String × List Token) :=
    c.arguments.map (fun w => (f w, [.word w])) ++
      c.redirections.map fun r => ((r.mapTarget f).render, r.tokens)
  have hpieces : ∀ q ∈ (f c.name, [.word c.name]) :: pieces, R q.1.toList q.2 := by
    intro q hq
    rw [List.mem_cons, List.mem_append, List.mem_map, List.mem_map] at hq
    rcases hq with rfl | ⟨w, hw, rfl⟩ | ⟨r, hr, rfl⟩
    · exact h _ (by simp [SimpleCommand.words, SimpleCommand.argv])
    · exact h _ (by simp [SimpleCommand.words, SimpleCommand.argv, hw])
    · have htarget : r.target ∈ c.words :=
        List.mem_append_right _ (List.mem_map_of_mem hr)
      simpa [Redirection.render, Redirection.mapTarget, Redirection.tokens] using
        hR.redirect r.kind (h _ htarget)
  have hjoin := hR.intercalate hpieces
  have htokens : ((f c.name, [Token.word c.name]) :: pieces).flatMap Prod.snd = c.tokens := by
    simp [pieces, SimpleCommand.tokens, SimpleCommand.argv, List.map_eq_flatMap, List.flatMap_assoc]
  rw [htokens] at hjoin
  simpa [pieces, SimpleCommand.render, SimpleCommand.mapWords, SimpleCommand.argv,
    Function.comp_def] using hjoin

/-- **What holds of the words of a tree, as they are written, and is kept by joins holds of the
rendered tree.** -/
theorem Joins.render_mapWords (hR : Joins R) {c : Command}
    (h : ∀ w ∈ c.words, R (f w).toList [.word w]) : R (c.mapWords f).render.toList c.tokens := by
  induction c with
  | simple body background =>
    exact hR.render_simple fun w hw => h w (by simpa [Command.words, Command.leaves] using hw)
  | node op left right background ihl ihr =>
    have hwords : ∀ w, w ∈ left.words ∨ w ∈ right.words →
        w ∈ (Command.node op left right background).words := by
      intro w hw
      rwa [Command.words, Command.leaves, List.flatMap_append, List.mem_append]
    have hl := ihl fun w hw => h w (hwords w (.inl hw))
    have hr := ihr fun w hw => h w (hwords w (.inr hw))
    simpa [Command.mapWords, Command.render, Command.tokens] using hR.separator op hl hr

theorem Joins.render (hR : Joins R) {c : Command} (h : ∀ w ∈ c.words, R w.toList [.word w]) :
    R c.render.toList c.tokens := by
  simpa [c.mapWords_id] using hR.render_mapWords (f := id) h

end Rendering

/-! ## Reading what is rendered -/

/-- The text is closed and has these tokens. -/
structure Reads (cs : List Char) (ts : List Token) : Prop where
  closed : Closed cs
  tokens_eq : (lexemes cs).map Lexeme.token = ts

theorem separates_cons {d : Char} (hd : endsWord d = true)
    (hone : d ∉ doublings.map Prod.fst) (cs ds : List Char) : Separates cs (d :: ds) := by
  intro c hc
  obtain rfl : d = c := by simpa using hc
  exact ⟨hd, fun ⟨one, two, h, _⟩ => hone (List.mem_map.mpr ⟨(d, one, two), h, rfl⟩)⟩

namespace Reads

theorem append {cs ds : List Char} {ts us : List Token} (h : Reads cs ts) (h' : Reads ds us)
    (hsep : Separates cs ds) : Reads (cs ++ ds) (ts ++ us) := by
  have hcut := lexemes_append h.closed hsep
  refine ⟨fun l hl => ?_, ?_⟩
  · rw [hcut, List.mem_append] at hl
    exact hl.elim (h.closed l) (h'.closed l)
  · rw [hcut, List.map_append, h.tokens_eq, h'.tokens_eq]

theorem blank {cs : List Char} {ts : List Token} (h : Reads cs ts) : Reads (' ' :: cs) ts := by
  have hskip : lexemes (' ' :: cs) = lexemes cs :=
    lexemes_append_of_blank (by simp [isBlank] : ∀ c ∈ [' '], isBlank c = true) cs
  exact ⟨fun l hl => h.closed l (hskip ▸ hl), by rw [hskip, h.tokens_eq]⟩

/-- A lexeme that is the whole text and is not open. -/
theorem of_next? {cs : List Char} {l : Lexeme} (h : Lexeme.next? cs = some (l, []))
    (hopen : l.isOpen = false) : Reads cs [l.token] := by
  have hl : lexemes cs = [l] := by
    rw [lexemes_of_next? h, lexemes_of_blank (by simp)]
  refine ⟨fun k hk => ?_, by rw [hl]; rfl⟩
  rw [hl, List.mem_singleton] at hk
  rw [hk, hopen]

theorem symbol (mark : Symbol) : Reads mark.text.toList [.symbol mark] := by
  refine of_next? (Lexeme.next?_of_munch? ?_) rfl
  cases mark with
  | connective op => cases op <;> rfl
  | redirect kind => cases kind <;> rfl
  | background => rfl
  | newline => rfl

/-- A blank parts any two texts. -/
theorem parted {cs ds : List Char} {ts us : List Token} (h : Reads cs ts) (h' : Reads ds us) :
    Reads (cs ++ ' ' :: ds) (ts ++ us) :=
  h.append h'.blank (separates_cons (by decide) (by decide) cs ds)

/-- The background mark can be put after any text. -/
theorem marked {s : String} {ts : List Token} (h : Reads s.toList ts) (background : Bool) :
    Reads (s ++ if background then " &" else "").toList (ts ++ marks background) := by
  cases background with
  | false => simpa [marks] using h
  | true => simpa [marks, Symbol.text] using h.parted (symbol .background)

end Reads

theorem spelling_of_ordinary {cs : List Char} (h : ∀ c ∈ cs, c ∉ delimiters ∧ c ≠ '\\') :
    Spelling (· ∉ delimiters) cs cs true := by
  induction cs with
  | nil => exact .done
  | cons c cs ih =>
    have hc := h c List.mem_cons_self
    exact .char hc.2 hc.1 (ih fun d hd => h d (List.mem_cons_of_mem c hd))

theorem Spelling.dangles_eq {plain : Char → Prop} {written value : List Char} {whole : Bool}
    (h : Spelling plain written value whole) : dangles written = !whole := by
  induction h with
  | done => rfl
  | lone => rfl
  | char hc _ _ ih => rw [dangles_char hc, ih]
  | pair c _ ih => rw [dangles_pair, ih]

/-- **A plain word is read as it is written.** -/
theorem Reads.word {w : String} (h : PlainWord w) : Reads w.toList [.word w] := by
  have hs := spelling_of_ordinary h.ordinary
  have hspan : spanWord (w.toList ++ []) = (w.toList ++ [], []) :=
    spanWord_of_spelling hs (.inl rfl)
  rw [List.append_nil] at hspan
  cases hw : w.toList with
  | nil => exact absurd (String.toList_eq_nil_iff.mp hw) h.ne_empty
  | cons c cs =>
    rw [hw] at hs hspan
    have hq : isQuote c = false := isQuote_eq_false_iff.mpr (h.unquoted c (by rw [hw]; rfl))
    have hnext : Lexeme.next? (c :: cs) = some (.word (c :: cs), []) := by
      rw [Lexeme.next?_eq_ofWord hs.endsWord_head, Lexeme.ofWord_of_not_isQuote hq, hspan]
    have hread := Reads.of_next? hnext hs.dangles_eq
    rwa [Lexeme.token, hs.unescape_eq, ← hw, String.ofList_toList, hw] at hread

theorem joins_reads : Joins Reads where
  redirect kind _ _ h := (Reads.symbol (.redirect kind)).parted h
  blank h h' := h.parted h'
  separator op := by
    intro cs ds ts us h h'
    have hop := (Reads.symbol (.connective op)).parted h'
    cases op with
    | sequence => exact h.append hop (separates_cons (d := ';') (by decide) (by decide) cs _)
    | _ => exact h.parted hop

/-- **A rendered tree with plain words has the tokens of the tree.** -/
theorem reads_render {c : Command} (h : c.Plain) : Reads c.render.toList c.tokens :=
  joins_reads.render fun w hw => .word (h w hw)

end LineShell
