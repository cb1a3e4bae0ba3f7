import LineShell.Command.Parser
import Mathlib.Logic.Basic

/-!
# The grammar of command lines, and what the parser makes of it

The grammar is a family of relations between tokens and the trees they derive:

    line        := sequence ["&"]
    sequence    := disjunction (";" disjunction)*
    disjunction := conjunction ("||" conjunction)*
    conjunction := pipeline ("&&" pipeline)*
    pipeline    := simple ("|" simple)*
    simple      := WORD (WORD | ("<" | ">" | ">>") WORD)*        the first word is not empty

The rows are left recursive here, so a row of operands folds to the left by its own form: its last
operand is the right child of the root. No relation mentions a rule of the parser.

`Recognises r P goesOn` ties a rule to a relation in both directions: what `r` reads, `P` derives,
and what `P` derives, `r` reads, provided that no token that `goesOn` follows. One lemma about the
row of operands (`Recognises.chain`) serves the four levels of connectives.

Headlines:
* `commandRule_eq_ok_iff`: what the topmost rule reads.
* `Grammar.Line.unique`: the grammar is unambiguous.
* **`parseTokens_eq_ok_iff_line`**: a list of tokens parses to a tree iff the grammar derives that
  tree from the tokens before the first end of the input, and it derives at most one.
-/

namespace LineShell

/-- The tokens before the first end of the input. -/
def beforeEnd (ts : List Token) : List Token :=
  ts.takeWhile (· != .endOfInput)

namespace Grammar

/-! ## The relations -/

/-- The tokens of a simple command: a word that is not empty, then words and redirections in any
order. Each goes to the end of its own list. -/
inductive Simple : List Token → SimpleCommand → Prop where
  | name {w : String} : w ≠ "" → Simple [.word w] ⟨w, [], []⟩
  | argument {ts : List Token} {c : SimpleCommand} (w : String) :
      Simple ts c → Simple (ts ++ [.word w]) { c with arguments := c.arguments ++ [w] }
  | redirection {ts : List Token} {c : SimpleCommand} (kind : RedirectKind) (w : String) :
      Simple ts c → Simple (ts ++ [.symbol (.redirect kind), .word w])
        { c with redirections := c.redirections ++ [⟨kind, w⟩] }

/-- A simple command as a tree. -/
def Leaf (ts : List Token) (t : Command) : Prop :=
  ∃ c, Simple ts c ∧ t = .simple c false

/-- Operands that `P` derives, one or more, with `op` between them. -/
inductive Chain (op : Connective) (P : List Token → Command → Prop) :
    List Token → Command → Prop where
  | operand {ts : List Token} {c : Command} : P ts c → Chain op P ts c
  | more {ts us : List Token} {left right : Command} : Chain op P ts left → P us right →
      Chain op P (ts ++ .symbol (.connective op) :: us) (left.join op right)

def Pipeline : List Token → Command → Prop := Chain .pipeline Leaf

def Conjunction : List Token → Command → Prop := Chain .and Pipeline

def Disjunction : List Token → Command → Prop := Chain .or Conjunction

def Sequence : List Token → Command → Prop := Chain .sequence Disjunction

/-- A sequence, or a sequence and the background mark, which marks the root. -/
inductive Line : List Token → Command → Prop where
  | foreground {ts : List Token} {c : Command} : Sequence ts c → Line ts c
  | background {ts : List Token} {c : Command} :
      Sequence ts c → Line (ts ++ [.symbol .background]) (c.setBackground true)

/-! ## No end of the input inside a derivation -/

theorem Simple.endOfInput_notMem {ts : List Token} {c : SimpleCommand} (h : Simple ts c) :
    Token.endOfInput ∉ ts := by
  induction h with
  | name => simp
  | argument w _ ih => simp [ih]
  | redirection kind w _ ih => simp [ih]

theorem Chain.endOfInput_notMem {op : Connective} {P : List Token → Command → Prop}
    (hP : ∀ {ts c}, P ts c → Token.endOfInput ∉ ts) {ts : List Token} {c : Command}
    (h : Chain op P ts c) : Token.endOfInput ∉ ts := by
  induction h with
  | operand h => exact hP h
  | more _ h ih => simp [ih, hP h]

theorem Sequence.endOfInput_notMem {ts : List Token} {c : Command} (h : Sequence ts c) :
    Token.endOfInput ∉ ts := by
  have leaf : ∀ {ts c}, Leaf ts c → Token.endOfInput ∉ ts := by
    rintro ts _ ⟨c, h, rfl⟩
    exact h.endOfInput_notMem
  exact Chain.endOfInput_notMem (Chain.endOfInput_notMem
    (Chain.endOfInput_notMem (Chain.endOfInput_notMem leaf))) h

theorem Line.endOfInput_notMem {ts : List Token} {c : Command} (h : Line ts c) :
    Token.endOfInput ∉ ts := by
  cases h with
  | foreground h => exact h.endOfInput_notMem
  | background h => simp [h.endOfInput_notMem]

end Grammar

open Grammar

/-! ## Rules and relations -/

/-- No token that satisfies `goesOn` stands at the front. -/
def Stops (goesOn : Token → Prop) (ts : List Token) : Prop :=
  ∀ t ∈ ts.head?, ¬ goesOn t

/-- **The rule `r` reads what `P` derives**, and all of it: it stops only before a token that does
not satisfy `goesOn`. -/
structure Recognises (r : Rule Command) (P : List Token → Command → Prop)
    (goesOn : Token → Prop) : Prop where
  sound : ∀ {ts rest c}, r.read ts = .ok (c, rest) →
    ∃ used, ts = used ++ rest ∧ P used c ∧ Stops goesOn rest
  complete : ∀ {used rest c}, P used c → Stops goesOn rest → r.read (used ++ rest) = .ok (c, rest)

/-! ### Simple commands -/

/-- A simple command with more parts at its end. -/
def SimpleCommand.withParts (c : SimpleCommand) (ps : List Part) : SimpleCommand :=
  ⟨c.name, c.arguments ++ ps.filterMap Part.argument?,
    c.redirections ++ ps.filterMap Part.redirection?⟩

theorem SimpleCommand.withParts_nil (c : SimpleCommand) : c.withParts [] = c := by
  simp [withParts]

theorem SimpleCommand.withParts_argument (c : SimpleCommand) (w : String) (ps : List Part) :
    c.withParts (.argument w :: ps) =
      ({ c with arguments := c.arguments ++ [w] } : SimpleCommand).withParts ps := by
  simp [withParts, List.filterMap_cons, Part.argument?, Part.redirection?]

theorem SimpleCommand.withParts_redirection (c : SimpleCommand) (r : Redirection)
    (ps : List Part) : c.withParts (.redirection r :: ps) =
      ({ c with redirections := c.redirections ++ [r] } : SimpleCommand).withParts ps := by
  simp [withParts, List.filterMap_cons, Part.argument?, Part.redirection?]

theorem SimpleCommand.ofParts_eq_withParts (name : String) (ps : List Part) :
    ofParts name ps = withParts ⟨name, [], []⟩ ps := rfl

/-- The tokens that go on with a simple command. -/
def IsPart : Token → Prop
  | .word _ => True
  | .symbol (.redirect _) => True
  | _ => False

theorem isPart_iff {t : Token} :
    IsPart t ↔ (∃ w, t = .word w) ∨ ∃ kind, t = .symbol (.redirect kind) := by
  fun_cases IsPart t <;> simp_all

theorem stops_isPart {ts : List Token} (hword : ∀ w us, ts ≠ .word w :: us)
    (hopen : ∀ kind us, ts ≠ .symbol (.redirect kind) :: us) : Stops IsPart ts := by
  intro t ht hpart
  obtain ⟨us, hts⟩ := List.head?_eq_some_iff.mp ht
  rcases isPart_iff.mp hpart with ⟨w, rfl⟩ | ⟨kind, rfl⟩
  · exact hword w us hts
  · exact hopen kind us hts

theorem readParts_of_stops {ts : List Token} (h : Stops IsPart ts) :
    readParts ts = .ok ([], ts) := by
  fun_cases readParts ts <;> simp_all [Stops, IsPart]

theorem readParts_sound {ts rest : List Token} {ps : List Part}
    (h : readParts ts = .ok (ps, rest)) {used : List Token} {c : SimpleCommand}
    (hc : Simple used c) :
    ∃ more, ts = more ++ rest ∧ Simple (used ++ more) (c.withParts ps) ∧ Stops IsPart rest := by
  -- the command read so far grows at its end, part by part, as the recursion goes to the right
  fun_induction readParts ts generalizing ps used c with
  | case1 w ts ih =>
    obtain ⟨⟨qs, us⟩, hr, he⟩ := map_eq_ok_iff.mp h
    obtain ⟨rfl, rfl⟩ := Prod.mk.inj he
    obtain ⟨more, rfl, hm, hs⟩ := ih hr (hc.argument w)
    refine ⟨.word w :: more, rfl, ?_, hs⟩
    rw [SimpleCommand.withParts_argument]
    simpa using hm
  | case2 kind w ts ih =>
    obtain ⟨⟨qs, us⟩, hr, he⟩ := map_eq_ok_iff.mp h
    obtain ⟨rfl, rfl⟩ := Prod.mk.inj he
    obtain ⟨more, rfl, hm, hs⟩ := ih hr (hc.redirection kind w)
    refine ⟨.symbol (.redirect kind) :: .word w :: more, rfl, ?_, hs⟩
    rw [SimpleCommand.withParts_redirection]
    simpa using hm
  | case3 => simp at h
  | case4 ts hword hfile hopen =>
    obtain ⟨rfl, rfl⟩ : [] = ps ∧ ts = rest := by simpa using h
    exact ⟨[], rfl, by simpa [SimpleCommand.withParts_nil] using hc, stops_isPart hword hopen⟩

theorem readSimple_of_simple {used : List Token} {c : SimpleCommand} (h : Simple used c)
    (rest : List Token) : readSimple (used ++ rest) =
      (readParts rest).map (Prod.map (fun ps => .simple (c.withParts ps) false) id) := by
  induction h generalizing rest with
  | name hw => simp [readSimple, hw, SimpleCommand.ofParts_eq_withParts]
  | argument w _ ih =>
    rw [List.append_assoc, ih, List.singleton_append, readParts]
    cases readParts rest with
    | error f => rfl
    | ok p => simp [Except.map, Prod.map, SimpleCommand.withParts_argument]
  | redirection kind w _ ih =>
    rw [List.append_assoc, ih, List.cons_append, List.singleton_append, readParts]
    cases readParts rest with
    | error f => rfl
    | ok p => simp [Except.map, Prod.map, SimpleCommand.withParts_redirection]

theorem simpleRule_recognises : Recognises simpleRule Leaf IsPart where
  sound := by
    intro ts rest c h
    change readSimple ts = .ok (c, rest) at h
    unfold readSimple at h
    split at h
    · next name ts =>
      split at h
      · simp at h
      · next hn =>
        obtain ⟨⟨ps, us⟩, hr, he⟩ := map_eq_ok_iff.mp h
        obtain ⟨rfl, rfl⟩ := Prod.mk.inj he
        have hname : Simple [.word name] ⟨name, [], []⟩ := .name (by simpa using hn)
        obtain ⟨more, rfl, hm, hs⟩ := readParts_sound hr hname
        exact ⟨.word name :: more, rfl, ⟨_, hm, rfl⟩, hs⟩
    · simp at h
  complete := by
    rintro used rest _ ⟨c, h, rfl⟩ hs
    change readSimple (used ++ rest) = _
    rw [readSimple_of_simple h, readParts_of_stops hs]
    simp [Except.map, SimpleCommand.withParts_nil]

/-! ### Rows of operands -/

section Chains

variable {r : Rule Command} {P : List Token → Command → Prop} {goesOn : Token → Prop}
  {op : Connective}

/-- What goes on with a row: what goes on with its last operand, or one more connective. -/
def OrConnective (op : Connective) (goesOn : Token → Prop) (t : Token) : Prop :=
  goesOn t ∨ t = .symbol (.connective op)

theorem eat_eq_none_iff {mark : Symbol} {ts : List Token} :
    eat mark ts = none ↔ Stops (· = .symbol mark) ts := by
  unfold eat Stops
  split
  · split <;> simp_all
  · next h =>
    simp only [true_iff]
    rintro t ht rfl
    cases ts with
    | nil => simp at ht
    | cons u us => exact h mark us (by simpa using ht)

theorem stops_orConnective {ts : List Token} :
    Stops (OrConnective op goesOn) ts ↔
      Stops goesOn ts ∧ Stops (· = .symbol (.connective op)) ts := by
  simp only [Stops, OrConnective, not_or]
  exact forall₂_and

theorem readChain_sound (hr : Recognises r P goesOn) {left c : Command}
    {used ts rest : List Token} (hl : Chain op P used left) (hs : Stops goesOn ts)
    (h : r.readChain op left ts = .ok (c, rest)) :
    ∃ more, ts = more ++ rest ∧ Chain op P (used ++ more) c ∧
      Stops (OrConnective op goesOn) rest := by
  fun_induction Rule.readChain op r left ts generalizing used with
  | case1 left ts he =>
    obtain ⟨rfl, rfl⟩ : left = c ∧ ts = rest := by simpa using h
    exact ⟨[], rfl, by simpa using hl, stops_orConnective.mpr ⟨hs, eat_eq_none_iff.mp he⟩⟩
  | case2 => simp at h
  | case3 left ts us he right rest' hread ih =>
    obtain ⟨used', rfl, hP, hs'⟩ := hr.sound hread
    obtain ⟨more, rfl, hm, hs''⟩ := ih (hl.more hP) hs' h
    refine ⟨.symbol (.connective op) :: (used' ++ more), ?_, by simpa using hm, hs''⟩
    rw [eat_eq_some_iff.mp he]
    simp

theorem readChain_of_stops {left : Command} {ts : List Token}
    (h : Stops (· = .symbol (.connective op)) ts) : r.readChain op left ts = .ok (left, ts) := by
  rw [Rule.readChain]
  split
  · rfl
  · next us he => rw [eat_eq_none_iff.mpr h] at he; exact absurd he (by simp)

theorem readChain_more {left right : Command} {us rest : List Token}
    (h : r.read us = .ok (right, rest)) :
    r.readChain op left (.symbol (.connective op) :: us) =
      r.readChain op (left.join op right) rest := by
  rw [Rule.readChain]
  split
  · next he => simp [eat] at he
  · next vs he =>
    obtain rfl : us = vs := by simpa [eat] using he
    split
    · next e hr => rw [h] at hr; exact absurd hr (by simp)
    · next c vs hr =>
      rw [h] at hr
      obtain ⟨rfl, rfl⟩ := Prod.mk.inj (Except.ok.inj hr)
      rfl

/-- A row that is derived can be put in front of what is read: the loop stands behind it. -/
theorem chain_read_of_chain (hr : Recognises r P goesOn)
    (hop : ¬ goesOn (.symbol (.connective op))) {used rest : List Token} {c : Command}
    (h : Chain op P used c) (hs : Stops goesOn rest) :
    (r.chain op).read (used ++ rest) = r.readChain op c rest := by
  induction h generalizing rest with
  | operand hP =>
    simp only [Rule.chain]
    rw [hr.complete hP hs]
  | @more ts us left right _ hP ih =>
    rw [List.append_assoc, List.cons_append, ih (by simpa [Stops] using hop)]
    exact readChain_more (hr.complete hP hs)

/-- **Rows**: if a rule reads what `P` derives, its rows are those of `P`. -/
theorem Recognises.chain (hr : Recognises r P goesOn)
    (hop : ¬ goesOn (.symbol (.connective op))) :
    Recognises (r.chain op) (Chain op P) (OrConnective op goesOn) where
  sound := by
    intro ts rest c h
    simp only [Rule.chain] at h
    split at h
    · simp at h
    · next left us hread =>
      obtain ⟨used, rfl, hP, hs⟩ := hr.sound hread
      obtain ⟨more, rfl, hm, hs'⟩ := readChain_sound hr (.operand hP) hs h
      exact ⟨used ++ more, by simp, hm, hs'⟩
  complete := by
    intro used rest c h hs
    obtain ⟨hs, hs'⟩ := stops_orConnective.mp hs
    rw [chain_read_of_chain hr hop h hs, readChain_of_stops hs']

end Chains

/-! ### The levels of the grammar -/

theorem pipelineRule_recognises :
    Recognises pipelineRule Pipeline (OrConnective .pipeline IsPart) :=
  simpleRule_recognises.chain (by simp [IsPart])

theorem conjunctionRule_recognises :
    Recognises conjunctionRule Conjunction (OrConnective .and (OrConnective .pipeline IsPart)) :=
  pipelineRule_recognises.chain (by simp [OrConnective, IsPart])

theorem disjunctionRule_recognises :
    Recognises disjunctionRule Disjunction
      (OrConnective .or (OrConnective .and (OrConnective .pipeline IsPart))) :=
  conjunctionRule_recognises.chain (by simp [OrConnective, IsPart])

/-- The tokens that go on with a sequence: all but the background mark, a line break and the end
of the input. -/
def InSequence : Token → Prop :=
  OrConnective .sequence (OrConnective .or (OrConnective .and (OrConnective .pipeline IsPart)))

theorem sequenceRule_recognises : Recognises sequenceRule Sequence InSequence :=
  disjunctionRule_recognises.chain (by simp [OrConnective, IsPart])

@[simp] theorem inSequence_word (w : String) : InSequence (.word w) := by
  simp [InSequence, OrConnective, IsPart]

@[simp] theorem inSequence_redirect (kind : RedirectKind) :
    InSequence (.symbol (.redirect kind)) := by
  simp [InSequence, OrConnective, IsPart]

@[simp] theorem inSequence_connective (op : Connective) :
    InSequence (.symbol (.connective op)) := by
  cases op <;> simp [InSequence, OrConnective]

@[simp] theorem not_inSequence_background : ¬ InSequence (.symbol .background) := by
  simp [InSequence, OrConnective, IsPart]

@[simp] theorem not_inSequence_endOfInput : ¬ InSequence .endOfInput := by
  simp [InSequence, OrConnective, IsPart]

/-! ## Whole lines -/

/-- **The topmost rule**: it reads a sequence as far as it goes, and the background mark after it if
there is one. -/
theorem commandRule_eq_ok_iff {ts rest : List Token} {c : Command} :
    commandRule.read ts = .ok (c, rest) ↔
      (∃ used, ts = used ++ rest ∧ Sequence used c ∧ Stops InSequence rest ∧
        Stops (· = .symbol .background) rest) ∨
      ∃ used root, ts = used ++ .symbol .background :: rest ∧ Sequence used root ∧
        c = root.setBackground true := by
  simp only [commandRule]
  constructor
  · intro h
    split at h
    · simp at h
    · next root us hr =>
      obtain ⟨used, rfl, hP, hs⟩ := sequenceRule_recognises.sound hr
      split at h
      · next he =>
        obtain ⟨rfl, rfl⟩ : root = c ∧ us = rest := by simpa using h
        exact .inl ⟨used, rfl, hP, hs, eat_eq_none_iff.mp he⟩
      · next vs he =>
        obtain ⟨rfl, rfl⟩ : root.setBackground true = c ∧ vs = rest := by simpa using h
        exact .inr ⟨used, root, by rw [eat_eq_some_iff.mp he], hP, rfl⟩
  · rintro (⟨used, rfl, hP, hs, hb⟩ | ⟨used, root, rfl, hP, rfl⟩)
    · rw [sequenceRule_recognises.complete hP hs]
      simp only [eat_eq_none_iff.mpr hb]
    · rw [sequenceRule_recognises.complete hP (by simp [Stops])]
      simp [eat]

theorem beforeEnd_append_of_notMem {used : List Token} (h : Token.endOfInput ∉ used)
    (ts : List Token) : beforeEnd (used ++ ts) = used ++ beforeEnd ts := by
  refine List.takeWhile_append_of_pos fun t ht => bne_iff_ne.mpr ?_
  rintro rfl
  exact h ht

theorem beforeEnd_append {used rest : List Token} (hu : Token.endOfInput ∉ used)
    (hr : atEnd rest = true) : beforeEnd (used ++ rest) = used := by
  have hstop : beforeEnd rest = [] := by
    fun_cases atEnd rest <;> simp_all [atEnd, beforeEnd]
  rw [beforeEnd_append_of_notMem hu, hstop, List.append_nil]

theorem head?_of_mem_head?_beforeEnd {ts : List Token} {t : Token}
    (h : t ∈ (beforeEnd ts).head?) : t ∈ ts.head? := by
  cases ts with
  | nil => exact h
  | cons u us =>
    by_cases hu : u = .endOfInput
    · simp [beforeEnd, hu] at h
    · simpa [beforeEnd, hu] using h

/-- A list of tokens is what stands before its end, and a list that is at its end. -/
theorem exists_eq_beforeEnd_append (ts : List Token) :
    ∃ rest, ts = beforeEnd ts ++ rest ∧ atEnd rest = true := by
  refine ⟨ts.dropWhile (· != .endOfInput), List.takeWhile_append_dropWhile.symm, ?_⟩
  induction ts with
  | nil => rfl
  | cons t ts ih =>
    by_cases ht : t = .endOfInput
    · subst ht
      rfl
    · rw [List.dropWhile_cons_of_pos (by simpa using ht)]
      exact ih

theorem stops_of_atEnd {goesOn : Token → Prop} (h : ¬ goesOn .endOfInput) {ts : List Token}
    (he : atEnd ts = true) : Stops goesOn ts := by
  fun_cases atEnd ts <;> simp_all [atEnd, Stops]

theorem parseTokens_eq_ok_iff_read {ts : List Token} {c : Command} :
    parseTokens ts = .ok c ↔ ∃ rest, commandRule.read ts = .ok (c, rest) ∧ atEnd rest = true := by
  unfold parseTokens
  cases hr : commandRule.read ts with
  | error f => simp
  | ok p =>
    obtain ⟨d, rest⟩ := p
    by_cases he : atEnd rest = true
    · simp [he, and_assoc]
    · simp [he, and_assoc]

/-- What parses is derived, up to the end of the input. -/
theorem line_of_parseTokens {ts : List Token} {c : Command} (h : parseTokens ts = .ok c) :
    Line (beforeEnd ts) c := by
  obtain ⟨rest, hr, he⟩ := parseTokens_eq_ok_iff_read.mp h
  have line : ∃ used, ts = used ++ rest ∧ Line used c := by
    rcases commandRule_eq_ok_iff.mp hr with ⟨used, rfl, hP, -⟩ | ⟨used, root, rfl, hP, rfl⟩
    · exact ⟨used, rfl, .foreground hP⟩
    · exact ⟨used ++ [.symbol .background], by simp, .background hP⟩
  obtain ⟨used, rfl, hl⟩ := line
  rwa [beforeEnd_append hl.endOfInput_notMem he]

/-- What is derived parses, whatever follows the end of the input. -/
theorem parseTokens_of_line {used rest : List Token} {c : Command} (h : Line used c)
    (he : atEnd rest = true) : parseTokens (used ++ rest) = .ok c := by
  rw [parseTokens_eq_ok_iff_read]
  refine ⟨rest, commandRule_eq_ok_iff.mpr ?_, he⟩
  cases h with
  | foreground h =>
    exact .inl ⟨used, rfl, h, stops_of_atEnd (by simp) he, stops_of_atEnd (by simp) he⟩
  | @background us root h => exact .inr ⟨us, root, by simp, h, rfl⟩

/-- The grammar is unambiguous: the parser is a function. -/
theorem Grammar.Line.unique {ts : List Token} {c d : Command} (hc : Line ts c) (hd : Line ts d) :
    c = d := by
  have hend : atEnd [] = true := rfl
  exact Except.ok.inj ((parseTokens_of_line hc hend).symm.trans (parseTokens_of_line hd hend))

theorem endOfInput_notMem_map_token (ls : List Lexeme) :
    Token.endOfInput ∉ ls.map Lexeme.token := by
  rw [List.mem_map]
  rintro ⟨l, -, hl⟩
  cases l <;> simp [Lexeme.token] at hl

/-- A line of text parses to a tree iff the tree is derived from the meanings of its lexemes. -/
theorem parse_eq_ok_iff_line {line : String} {c : Command} :
    parse line = .ok c ↔ Line ((lexemes line.toList).map Lexeme.token) c := by
  have hparse : parse line = .ok c ↔ parseTokens (tokenize line) = .ok c := by
    unfold parse
    split <;> simp_all
  have hend : atEnd [.endOfInput] = true := rfl
  rw [hparse]
  constructor
  · intro h
    have hline := line_of_parseTokens h
    rwa [tokenize, tokens, beforeEnd_append (endOfInput_notMem_map_token _) hend] at hline
  · intro h
    exact parseTokens_of_line h hend

/-- **The parser accepts the grammar's lines and builds the grammar's trees.** A list of tokens
parses to a tree iff the grammar derives that tree from the tokens before the first end of the
input, and it derives no other one from them. -/
theorem parseTokens_eq_ok_iff_line (ts : List Token) :
    (∀ c, parseTokens ts = .ok c ↔ Line (beforeEnd ts) c) ∧
      ∀ c d, Line (beforeEnd ts) c → Line (beforeEnd ts) d → c = d := by
  refine ⟨fun c => ⟨line_of_parseTokens, fun h => ?_⟩, fun _ _ => Line.unique⟩
  obtain ⟨rest, hts, he⟩ := exists_eq_beforeEnd_append ts
  rw [hts]
  exact parseTokens_of_line h he

end LineShell
