import LineShell.Proofs.InStep

/-!
# The rules on a cursor

The rules of the grammar as programs on a `Cursor`, a list of tokens with the place of the current
one. A program looks at the current token (`peek?`), takes it out (`advance`), or steps over it
(`eat?`). A token that is taken out is overwritten with the end of the input, and where there is
none to be taken out, `advance` hands out the end of the input as a stand-in. The cursor keeps a
record of all that was handed out.

The list from the current token on (`rest`) is the view that ties programs to rules. `Moved` says
what a stretch of a program has done to the cursor, `Follows` that a program and a rule come to the
same result. A `Procedure` is a program together with the proof that it follows its rule, so the
programs are built from one another as the rules are, and the proofs with them.

Models `Parser` of the module `parser` with its fields: `peek`, `peek_kind`, `advance`, `eat`, and
the five rules on them.

Results:
* `moved_advance`, `moved_eat?`: what the two operations do where there is a token.
* `follows_parts`, `follows_chainLoop`: the two loops, by induction over their turns.
* **`Nonterminal.procedure`**: each of the five rules has a program that follows it on every cursor.
-/

namespace LineShell

/-! ## Cursors -/

/-- A list of tokens, and the place where reading goes on. -/
structure Cursor where
  tokens : List Token
  current : Nat
  /-- All that was handed out so far. -/
  handedOut : List Token
  deriving DecidableEq, Repr

/-- The tokens that are handed out; the others are stepped over. -/
def Token.isHandedOut (t : Token) : Bool :=
  t.isWord || t.isRedirect

namespace Cursor

/-- The cursor at a place of a list. -/
def start (tokens : List Token) (place : Nat) : Cursor :=
  ⟨tokens, place, []⟩

/-- The list from the current token on. -/
def rest (c : Cursor) : List Token :=
  c.tokens.drop c.current

/-- The current token; there is none at the end of the list or of the input. -/
def peek? (c : Cursor) : Option Token :=
  c.tokens[c.current]?.filter (· ≠ .endOfInput)

/-- The current token is taken out. If there is none, the end of the input is handed out. -/
def advance (c : Cursor) : Token × Cursor :=
  match c.peek? with
  | some t =>
    (t, ⟨c.tokens.set c.current .endOfInput, c.current + 1, c.handedOut ++ [t]⟩)
  | none => (.endOfInput, { c with handedOut := c.handedOut ++ [.endOfInput] })

/-- The cursor behind the mark, if the mark is the current token. -/
def eat? (mark : Symbol) (c : Cursor) : Option Cursor :=
  if c.peek? = some (.symbol mark) then some { c with current := c.current + 1 } else none

theorem peek?_eq (c : Cursor) : c.peek? = c.rest.head?.filter (· ≠ .endOfInput) := by
  rw [peek?, rest, List.head?_drop]

theorem peek?_of_rest {c : Cursor} {t : Token} {ts : List Token} (h : c.rest = t :: ts)
    (ht : t ≠ .endOfInput) : c.peek? = some t := by
  rw [peek?_eq, h, List.head?_cons, Option.filter_some, if_pos (decide_eq_true ht)]

/-- **There is a current token** exactly if the list goes on with it, and the input does not end
there. -/
theorem peek?_eq_some_iff {c : Cursor} {t : Token} :
    c.peek? = some t ↔ c.rest = t :: c.tokens.drop (c.current + 1) ∧ t ≠ .endOfInput := by
  rw [peek?, Option.filter_eq_some_iff, rest, decide_eq_true_iff]
  refine and_congr_left fun _ => ⟨fun h => ?_, fun h => ?_⟩
  · obtain ⟨hlt, rfl⟩ := List.getElem?_eq_some_iff.mp h
    exact List.drop_eq_getElem_cons hlt
  · rw [← List.head?_drop, h, List.head?_cons]

/-! ## Moves -/

/-- **The cursor has moved past the tokens `used`.** None of them is an end of the input, and of
these tokens no other ones were handed out than those that are to be. -/
structure Moved (c c' : Cursor) (used : List Token) : Prop where
  rest_eq : c.rest = used ++ c'.rest
  current_eq : c'.current = c.current + used.length
  handedOut_eq : c'.handedOut = c.handedOut ++ used.filter Token.isHandedOut
  endOfInput_notMem : Token.endOfInput ∉ used

namespace Moved

variable {c c' c'' : Cursor} {used used' : List Token}

theorem refl (c : Cursor) : Moved c c [] where
  rest_eq := rfl
  current_eq := rfl
  handedOut_eq := by rw [List.filter_nil, List.append_nil]
  endOfInput_notMem := List.not_mem_nil

theorem trans (h : Moved c c' used) (h' : Moved c' c'' used') : Moved c c'' (used ++ used') where
  rest_eq := by rw [h.rest_eq, h'.rest_eq, List.append_assoc]
  current_eq := by rw [h'.current_eq, h.current_eq, List.length_append, Nat.add_assoc]
  handedOut_eq := by rw [h'.handedOut_eq, h.handedOut_eq, List.filter_append, List.append_assoc]
  endOfInput_notMem := by
    rw [List.mem_append, not_or]
    exact ⟨h.endOfInput_notMem, h'.endOfInput_notMem⟩

/-- **The list itself** goes on from the new place as the cursor does. -/
theorem drop_start {tokens : List Token} {place : Nat} (h : Moved (start tokens place) c' used) :
    tokens.drop c'.current = c'.rest := by
  have hrest : tokens.drop place = used ++ c'.rest := h.rest_eq
  rw [h.current_eq, ← List.drop_drop, start, hrest, List.drop_left]

/-- The list from the current token on does not get longer. -/
theorem length_rest (h : Moved c c' used) : c.rest.length = used.length + c'.rest.length := by
  rw [h.rest_eq, List.length_append]

end Moved

/-- **Where there is a token to be handed out**, it is, and the cursor moves past it. -/
theorem moved_advance {c : Cursor} {t : Token} (h : c.peek? = some t) (ht : t.isHandedOut = true) :
    c.advance.1 = t ∧ Moved c c.advance.2 [t] := by
  obtain ⟨hrest, hend⟩ := peek?_eq_some_iff.mp h
  unfold advance
  rw [h]
  refine ⟨rfl, ?_, rfl, by rw [List.filter_cons_of_pos ht, List.filter_nil], by simp [hend.symm]⟩
  -- the token that is overwritten stands before the new place
  rw [hrest, rest, List.drop_set_of_lt (Nat.lt_succ_self _), List.singleton_append]

/-- **A mark that is stepped over** stands at the front of the list, and is not handed out. -/
theorem moved_eat? {mark : Symbol} {c c' : Cursor} (h : c.eat? mark = some c')
    (hmark : (Token.symbol mark).isHandedOut = false) : Moved c c' [.symbol mark] := by
  obtain ⟨hpeek, rfl⟩ : c.peek? = some (.symbol mark) ∧
      { c with current := c.current + 1 } = c' := by
    simpa [eat?] using h
  obtain ⟨hrest, hend⟩ := peek?_eq_some_iff.mp hpeek
  exact ⟨hrest, rfl, by simp [hmark], by simp⟩

/-- **A cursor and a list** agree on whether there is a mark to be stepped over. -/
theorem eat?_map_rest (mark : Symbol) (c : Cursor) : (c.eat? mark).map rest = eat mark c.rest := by
  cases heat : eat mark c.rest with
  | none =>
    have hpeek : c.peek? ≠ some (.symbol mark) := by
      intro h
      rw [(peek?_eq_some_iff.mp h).1] at heat
      simp [eat] at heat
    rw [eat?, if_neg hpeek, Option.map_none]
  | some us =>
    have hrest := eat_eq_some_iff.mp heat
    have hpeek : c.peek? = some (.symbol mark) := peek?_of_rest hrest (by simp)
    have hus : us = c.tokens.drop (c.current + 1) :=
      (List.cons.inj (hrest.symm.trans (peek?_eq_some_iff.mp hpeek).1)).2
    rw [eat?, if_pos hpeek, Option.map_some, rest, hus]

theorem eat_of_eat?_eq_none {mark : Symbol} {c : Cursor} (h : c.eat? mark = none) :
    eat mark c.rest = none := by
  rw [← eat?_map_rest, h, Option.map_none]

theorem rest_of_eat? {mark : Symbol} {c c' : Cursor} (h : c.eat? mark = some c') :
    c.rest = .symbol mark :: c'.rest := by
  rw [← eat_eq_some_iff, ← eat?_map_rest, h, Option.map_some]

/-! ## Following a rule -/

/-- The result of a program as a rule gives it, with the tokens that are left. -/
def withRest {α : Type} (result : Except ParseError α) (rest : List Token) :
    Except Failure (α × List Token) :=
  match result with
  | .ok a => .ok (a, rest)
  | .error e => .error ⟨e, rest⟩

theorem withRest_inj {α : Type} {result result' : Except ParseError α} {ts ts' : List Token} :
    withRest result ts = withRest result' ts' ↔ result = result' ∧ ts = ts' := by
  cases result <;> cases result' <;> simp [withRest]

/-- **The program comes to the same as the rule**: to the same value, or the same cause of failure,
and it has moved the cursor to where the rule stops. -/
inductive Follows {α : Type} (c : Cursor) :
    Except Failure (α × List Token) → Except ParseError α × Cursor → Prop where
  | ok {a : α} {c' : Cursor} {used : List Token} :
      Moved c c' used → Follows c (.ok (a, c'.rest)) (.ok a, c')
  | error {e : ParseError} {c' : Cursor} {used : List Token} :
      Moved c c' used → Follows c (.error ⟨e, c'.rest⟩) (.error e, c')

namespace Follows

variable {α : Type} {c c' : Cursor} {read : Except Failure (α × List Token)}
  {run : Except ParseError α × Cursor}

/-- The program may have moved the cursor before it follows the rule. -/
theorem after {used : List Token} (hmoved : Moved c c' used) (h : Follows c' read run) :
    Follows c read run := by
  cases h with
  | ok h => exact .ok (hmoved.trans h)
  | error h => exact .error (hmoved.trans h)

theorem moved (h : Follows c read run) : ∃ used, Moved c run.2 used := by
  cases h with
  | ok h => exact ⟨_, h⟩
  | error h => exact ⟨_, h⟩

theorem length_rest_le (h : Follows c read run) : run.2.rest.length ≤ c.rest.length := by
  obtain ⟨used, hmoved⟩ := h.moved
  rw [hmoved.length_rest]
  exact Nat.le_add_left _ _

/-- **What the rule comes to**, told from the run of the program. -/
theorem read_eq (h : Follows c read run) : read = withRest run.1 run.2.rest := by
  cases h <;> rfl

end Follows

/-! ## Simple commands -/

/-- A redirection of the given kind; its operator is the current token. -/
def redirection (kind : RedirectKind) (c : Cursor) : Except ParseError Redirection × Cursor :=
  let target := c.advance.2
  match target.peek? with
  | some (.word _) => (.ok ⟨kind, target.advance.1.value⟩, target.advance.2)
  | _ => (.error (.expectedFilename kind), target)

theorem isHandedOut_word (w : String) : (Token.word w).isHandedOut = true := rfl

theorem isHandedOut_redirect (kind : RedirectKind) :
    (Token.symbol (.redirect kind)).isHandedOut = true := rfl

/-- **What becomes of a redirection.** If a word follows the operator, both are taken out; if not,
the operator is, and this is a failure. -/
theorem redirection_cases {kind : RedirectKind} {c : Cursor}
    (h : c.peek? = some (.symbol (.redirect kind))) :
    (∃ w c', c.redirection kind = (.ok ⟨kind, w⟩, c') ∧
      Moved c c' [.symbol (.redirect kind), .word w]) ∨
    ∃ c', c.redirection kind = (.error (.expectedFilename kind), c') ∧
      Moved c c' [.symbol (.redirect kind)] ∧ ∀ w us, c'.rest ≠ .word w :: us := by
  obtain ⟨-, hoperator⟩ := moved_advance h (isHandedOut_redirect kind)
  unfold redirection
  dsimp only
  split
  · next w hpeek =>
    obtain ⟨hvalue, hword⟩ := moved_advance hpeek (isHandedOut_word w)
    rw [hvalue]
    exact .inl ⟨w, _, rfl, hoperator.trans hword⟩
  · next hpeek =>
    refine .inr ⟨_, rfl, hoperator, fun w us hrest => hpeek w ?_⟩
    exact peek?_of_rest hrest (by simp)

/-- The loop over the arguments and redirections of a command, of which the part that stands before
them is given. -/
def parts (command : SimpleCommand) (c : Cursor) : Except ParseError SimpleCommand × Cursor :=
  match _peeked : c.peek? with
  | some (.word _) =>
    parts { command with arguments := command.arguments ++ [c.advance.1.value] } c.advance.2
  | some (.symbol (.redirect kind)) =>
    match _read : c.redirection kind with
    | (.ok r, c') => parts { command with redirections := command.redirections ++ [r] } c'
    | (.error e, c') => (.error e, c')
  | _ => (.ok command, c)
termination_by c.rest.length
decreasing_by
  · have := (moved_advance _peeked (isHandedOut_word _)).2.length_rest
    simp only [List.length_singleton] at this
    omega
  · rcases redirection_cases _peeked with ⟨w, c'', hread, hmoved⟩ | ⟨c'', hread, -, -⟩
    · obtain ⟨-, rfl⟩ := Prod.mk.inj (hread.symm.trans _read)
      have := hmoved.length_rest
      simp only [List.length_cons, List.length_nil] at this
      omega
    · cases hread.symm.trans _read

/-- **The loop follows `readParts`**, from the command that it has so far. -/
theorem follows_parts (command : SimpleCommand) (c : Cursor) :
    Follows c ((readParts c.rest).map (Prod.map command.withParts id)) (c.parts command) := by
  fun_induction parts command c with
  | case1 command c w hpeek ih =>
    obtain ⟨hvalue, hmoved⟩ := moved_advance hpeek (isHandedOut_word w)
    refine .after hmoved ?_
    rw [hvalue, Token.value] at ih ⊢
    rw [hmoved.rest_eq, List.singleton_append, readParts]
    cases hread : readParts c.advance.2.rest with
    | error f => simpa [hread, Except.map] using ih
    | ok p => simpa [hread, Except.map, Prod.map, SimpleCommand.withParts_argument] using ih
  | case2 command c kind hpeek r c' hread ih =>
    rcases redirection_cases hpeek with ⟨w, c'', hread', hmoved⟩ | ⟨c'', hread', -, -⟩
    · obtain ⟨hr, rfl⟩ := Prod.mk.inj (hread'.symm.trans hread)
      obtain rfl := Except.ok.inj hr
      refine .after hmoved ?_
      rw [hmoved.rest_eq, List.cons_append, List.singleton_append, readParts]
      cases hread : readParts c''.rest with
      | error f => simpa [hread, Except.map] using ih
      | ok p => simpa [hread, Except.map, Prod.map, SimpleCommand.withParts_redirection] using ih
    · cases hread'.symm.trans hread
  | case3 command c kind hpeek e c' hread =>
    rcases redirection_cases hpeek with ⟨w, c'', hread', -⟩ | ⟨c'', hread', hmoved, hword⟩
    · cases hread'.symm.trans hread
    · obtain ⟨he, rfl⟩ := Prod.mk.inj (hread'.symm.trans hread)
      obtain rfl := Except.error.inj he
      rw [hmoved.rest_eq, List.singleton_append, readParts.eq_3 kind _ hword]
      exact .error hmoved
  | case4 command c hword hoperator =>
    have hstops : Stops IsPart c.rest := stops_isPart
      (fun w us hrest => hword w (peek?_of_rest hrest (by simp)))
      (fun kind us hrest => hoperator kind (peek?_of_rest hrest (by simp)))
    have hsame := Follows.ok (a := command) (.refl c)
    rwa [readParts_of_stops hstops, Except.map, Prod.map, SimpleCommand.withParts_nil, id]

/-- A simple command: its name, and the loop over what follows. -/
def simple (c : Cursor) : Except ParseError Command × Cursor :=
  match c.peek? with
  | some (.word w) =>
    if w.isEmpty then (.error .expectedCommand, c)
    else
      match c.advance.2.parts ⟨c.advance.1.value, [], []⟩ with
      | (.ok command, c') => (.ok (.simple command false), c')
      | (.error e, c') => (.error e, c')
  | _ => (.error .expectedCommand, c)

theorem follows_simple (c : Cursor) : Follows c (readSimple c.rest) c.simple := by
  unfold simple
  split
  · next w hpeek =>
    obtain ⟨hvalue, hmoved⟩ := moved_advance hpeek (isHandedOut_word w)
    rw [hmoved.rest_eq, List.singleton_append, readSimple]
    split
    · have hsame := Follows.error (α := Command) (e := .expectedCommand) (.refl c)
      rwa [hmoved.rest_eq] at hsame
    · have hparts := (follows_parts ⟨w, [], []⟩ c.advance.2).after hmoved
      rw [hvalue, Token.value]
      generalize c.advance.2.parts ⟨w, [], []⟩ = run at hparts ⊢
      cases hread : readParts c.advance.2.rest with
      | error f =>
        rw [hread] at hparts
        cases hparts with
        | error h => exact .error h
      | ok p =>
        rw [hread] at hparts
        obtain ⟨ps, ts⟩ := p
        cases hparts with
        | ok h => exact .ok h
  · next hpeek =>
    have hname : ∀ w ts, c.rest ≠ .word w :: ts := fun w ts hrest =>
      hpeek w (peek?_of_rest hrest (by simp))
    have hread : readSimple c.rest = .error ⟨.expectedCommand, c.rest⟩ := by
      unfold readSimple
      split
      · next w ts hrest => exact absurd hrest (hname w ts)
      · rfl
    rw [hread]
    exact .error (.refl c)

end Cursor

/-! ## Programs that follow their rules -/

open Cursor

/-- A program on cursors that follows the rule `r`. -/
structure Procedure (r : Rule Command) where
  run : Cursor → Except ParseError Command × Cursor
  follows : ∀ c, Follows c (r.read c.rest) (run c)

/-- The program for simple commands. -/
def simpleProcedure : Procedure simpleRule where
  run := Cursor.simple
  follows := follows_simple

namespace Procedure

variable {r : Rule Command}

/-- The loop over more operands after `left`, each after the connective `op`. -/
def chainLoop (op : Connective) (operand : Procedure r) (left : Command) (c : Cursor) :
    Except ParseError Command × Cursor :=
  match _eaten : c.eat? (.connective op) with
  | none => (.ok left, c)
  | some c' =>
    match _ran : operand.run c' with
    | (.error e, c'') => (.error e, c'')
    | (.ok right, c'') => chainLoop op operand (left.join op right) c''
termination_by c.rest.length
decreasing_by
  have heaten := rest_of_eat? _eaten
  have hran := (operand.follows c').length_rest_le
  rw [_ran] at hran
  rw [heaten, List.length_cons]
  exact Nat.lt_succ_of_le hran

/-- **The loop follows `readChain`**, operand by operand. -/
theorem follows_chainLoop (op : Connective) (operand : Procedure r) (left : Command) (c : Cursor) :
    Follows c (r.readChain op left c.rest) (operand.chainLoop op left c) := by
  fun_induction chainLoop op operand left c with
  | case1 left c heaten =>
    rw [readChain_of_stops (eat_eq_none_iff.mp (eat_of_eat?_eq_none heaten))]
    exact .ok (.refl c)
  | case2 left c c' heaten e c'' hran =>
    have hfollows := operand.follows c'
    have hread := hfollows.read_eq
    rw [hran] at hfollows hread
    obtain ⟨used, hmoved⟩ := hfollows.moved
    rw [rest_of_eat? heaten, readChain_error hread]
    exact .error ((moved_eat? heaten rfl).trans hmoved)
  | case3 left c c' heaten right c'' hran ih =>
    have hfollows := operand.follows c'
    have hread := hfollows.read_eq
    rw [hran] at hfollows hread
    obtain ⟨used, hmoved⟩ := hfollows.moved
    rw [rest_of_eat? heaten, readChain_more hread]
    exact ih.after ((moved_eat? heaten rfl).trans hmoved)

/-- The program for a row of operands. -/
def chain (op : Connective) (operand : Procedure r) : Procedure (r.chain op) where
  run c :=
    match operand.run c with
    | (.error e, c') => (.error e, c')
    | (.ok left, c') => operand.chainLoop op left c'
  follows := by
    intro c
    have hfollows := operand.follows c
    have hread := hfollows.read_eq
    obtain ⟨used, hmoved⟩ := hfollows.moved
    simp only [Rule.chain]
    rcases hran : operand.run c with ⟨e | left, c'⟩
    · rw [hran] at hread hmoved
      rw [hread]
      exact .error hmoved
    · rw [hran] at hread hmoved
      rw [hread]
      exact (operand.follows_chainLoop op left c').after hmoved

/-- The program for a sequence and the background mark after it. -/
def marked (sequence : Procedure sequenceRule) : Procedure commandRule where
  run c :=
    match sequence.run c with
    | (.error e, c') => (.error e, c')
    | (.ok command, c') =>
      match c'.eat? .background with
      | none => (.ok command, c')
      | some c'' => (.ok (command.setBackground true), c'')
  follows := by
    intro c
    have hfollows := sequence.follows c
    have hread := hfollows.read_eq
    obtain ⟨used, hmoved⟩ := hfollows.moved
    simp only [commandRule]
    rcases hran : sequence.run c with ⟨e | command, c'⟩
    · rw [hran] at hread hmoved
      rw [hread]
      exact .error hmoved
    · rw [hran] at hread hmoved
      simp only [hread, withRest]
      cases heaten : c'.eat? .background with
      | none =>
        rw [eat_of_eat?_eq_none heaten]
        exact .ok hmoved
      | some c'' =>
        rw [eat_eq_some_iff.mpr (rest_of_eat? heaten)]
        exact .ok (hmoved.trans (moved_eat? heaten rfl))

end Procedure

/-! ## The five rules -/

def pipelineProcedure : Procedure pipelineRule := simpleProcedure.chain .pipeline

def conjunctionProcedure : Procedure conjunctionRule := pipelineProcedure.chain .and

def disjunctionProcedure : Procedure disjunctionRule := conjunctionProcedure.chain .or

/-- The rules that the parser is made of, from the tightest to the loosest. -/
inductive Nonterminal where
  | simple
  | pipeline
  | conjunction
  | disjunction
  | command
  deriving DecidableEq, Repr

namespace Nonterminal

def rule : Nonterminal → Rule Command
  | simple => simpleRule
  | pipeline => pipelineRule
  | conjunction => conjunctionRule
  | disjunction => disjunctionRule
  | command => commandRule

/-- **The program of each rule**, built from those of the tighter ones. -/
def procedure : (n : Nonterminal) → Procedure n.rule
  | simple => simpleProcedure
  | pipeline => pipelineProcedure
  | conjunction => conjunctionProcedure
  | disjunction => disjunctionProcedure
  | command => (disjunctionProcedure.chain .sequence).marked

end Nonterminal

end LineShell
