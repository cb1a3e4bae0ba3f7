import LineShell.Proofs.Cursor
import LineShell.Proofs.Rendering

/-!
# Progress and safety of the rules

Each rule comes to an end on every list of tokens, from every place in it, wherever ends of the
input stand. What it takes is a row of tokens before the next end of the input; it sees nothing
beyond (`cut_inStep`), and where it succeeds, it has taken a token at least and has gone on for as
long as it could (`Nonterminal.read_eq_ok`).

The program of a rule takes the same tokens from its cursor (`Follows`), so this is true of the
cursor too. As every token that it takes stands before the end of the input, `advance` is never
called where there is none, and the stand-in does not get into a tree.

Results:
* `cut_inStep`: what stands behind the first end of the input has no effect on any rule.
* `Nonterminal.read_eq_ok`: what a rule takes where it succeeds, and where it stops.
* **`procedure_progress`**: termination, what the result depends on, how far the cursor moves, what
  may follow, and what is handed out.
-/

namespace LineShell

open Grammar

/-! ## Nothing behind the end of the input counts -/

/-- The list `us` is what stands in `ts` before the first end of the input. -/
def Cut (ts us : List Token) : Prop :=
  us = beforeEnd ts

theorem beforeEnd_word (w : String) (ts : List Token) :
    beforeEnd (.word w :: ts) = .word w :: beforeEnd ts := rfl

theorem beforeEnd_symbol (mark : Symbol) (ts : List Token) :
    beforeEnd (.symbol mark :: ts) = .symbol mark :: beforeEnd ts := rfl

theorem exists_of_beforeEnd_eq_cons {ts us : List Token} {t : Token} (h : beforeEnd ts = t :: us) :
    ∃ more, ts = t :: more :=
  List.head?_eq_some_iff.mp (head?_of_mem_head?_beforeEnd (by rw [h]; rfl))

theorem stops_beforeEnd {goesOn : Token → Prop} {ts : List Token} (h : Stops goesOn ts) :
    Stops goesOn (beforeEnd ts) :=
  fun t ht => h t (head?_of_mem_head?_beforeEnd ht)

theorem readParts_cut (ts : List Token) :
    Agree Cut Eq (readParts ts) (readParts (beforeEnd ts)) := by
  fun_induction readParts ts with
  | case1 w ts ih =>
    rw [beforeEnd_word, readParts]
    exact ih.map fun hps => by rw [hps]
  | case2 kind w ts ih =>
    rw [beforeEnd_symbol, beforeEnd_word, readParts]
    exact ih.map fun hps => by rw [hps]
  | case3 kind ts hfile =>
    have hfile' : ∀ w us, beforeEnd ts = .word w :: us → False := by
      intro w us hcut
      obtain ⟨more, rfl⟩ := exists_of_beforeEnd_eq_cons hcut
      exact hfile w more rfl
    rw [beforeEnd_symbol, readParts.eq_3 kind _ hfile']
    exact .error _ rfl
  | case4 ts hword hfile hopen =>
    rw [readParts_of_stops (stops_beforeEnd (stops_isPart hword hopen))]
    exact .ok rfl rfl

theorem readSimple_cut (ts : List Token) :
    Agree Cut Eq (readSimple ts) (readSimple (beforeEnd ts)) := by
  cases ts with
  | nil => exact .error _ rfl
  | cons t ts =>
    cases t with
    | word name =>
      rw [beforeEnd_word, readSimple, readSimple]
      split
      · exact .error _ (beforeEnd_word name ts).symm
      · exact (readParts_cut ts).map fun hps => by rw [hps]
    | symbol mark =>
      rw [beforeEnd_symbol]
      exact .error _ (beforeEnd_symbol mark ts).symm
    | endOfInput => exact .error _ rfl

/-- **The parser goes in step** over a list and what stands in it before the first end of the
input. -/
theorem cut_inStep : InStep Cut Eq where
  simple := by
    rintro ts _ rfl
    exact readSimple_cut ts
  eat mark := by
    rintro ts _ rfl
    cases ts with
    | nil => exact .none
    | cons t ts =>
      cases t with
      | word w => exact .none
      | symbol m =>
        rw [beforeEnd_symbol, eat, eat]
        split
        · exact .some rfl
        · exact .none
      | endOfInput => exact .none
  atEnd := by
    rintro ts _ rfl
    cases ts with
    | nil => rfl
    | cons t ts => cases t <;> rfl
  join := by
    rintro op a _ c _ rfl rfl
    rfl
  setBackground := by
    rintro a _ rfl
    rfl

/-! ## One rule -/

theorem sound_of_recognises {r : Rule Command} {P : List Token → Command → Prop}
    {goesOn : Token → Prop} (hr : Recognises r P goesOn)
    (hP : ∀ {ts c}, P ts c → ts.Perm c.tokens) {ts rest : List Token} {c : Command}
    (h : r.read ts = .ok (c, rest)) :
    ∃ used, ts = used ++ rest ∧ (∀ w ∈ c.words, .word w ∈ used) ∧ Stops goesOn rest := by
  obtain ⟨used, hts, hc, hstops⟩ := hr.sound h
  exact ⟨used, hts, fun w hw => (hP hc).mem_iff.mpr (Command.mem_tokens_of_mem_words hw), hstops⟩

namespace Nonterminal

/-- The tokens that a rule goes on with, where it has read the tree so far. Nothing goes on with a
command behind its background mark. -/
def goesOn : Nonterminal → Command → Token → Prop
  | simple, _ => IsPart
  | pipeline, _ => OrConnective .pipeline IsPart
  | conjunction, _ => OrConnective .and (OrConnective .pipeline IsPart)
  | disjunction, _ => OrConnective .or (OrConnective .and (OrConnective .pipeline IsPart))
  | command, root => fun t =>
    root.isBackground = false ∧ (InSequence t ∨ t = .symbol .background)

theorem agree {R : List Token → List Token → Prop} {S : Command → Command → Prop}
    (h : InStep R S) (n : Nonterminal) {ts us : List Token} (hts : R ts us) :
    Agree R S (n.rule.read ts) (n.rule.read us) := by
  cases n with
  | simple => exact h.simple hts
  | pipeline => exact h.chain h.simple hts
  | conjunction => exact h.chain (h.chain h.simple) hts
  | disjunction => exact h.chain (h.chain (h.chain h.simple)) hts
  | command => exact h.commandRule hts

/-- **What a rule takes where it succeeds, and where it stops.** The words of the tree are words
that it has taken, and it does not stop before a token that it could have gone on with. -/
theorem read_eq_ok (n : Nonterminal) {ts rest : List Token} {c : Command}
    (h : n.rule.read ts = .ok (c, rest)) :
    ∃ used, ts = used ++ rest ∧ (∀ w ∈ c.words, .word w ∈ used) ∧ Stops (n.goesOn c) rest := by
  cases n with
  | simple => exact sound_of_recognises simpleRule_recognises Leaf.perm_tokens h
  | pipeline =>
    exact sound_of_recognises pipelineRule_recognises (Chain.perm_tokens Leaf.perm_tokens) h
  | conjunction =>
    exact sound_of_recognises conjunctionRule_recognises
      (Chain.perm_tokens (Chain.perm_tokens Leaf.perm_tokens)) h
  | disjunction =>
    exact sound_of_recognises disjunctionRule_recognises
      (Chain.perm_tokens (Chain.perm_tokens (Chain.perm_tokens Leaf.perm_tokens))) h
  | command =>
    rcases commandRule_eq_ok_iff.mp h with
      ⟨used, rfl, hc, hstops, hmark⟩ | ⟨used, root, rfl, hc, rfl⟩
    · refine ⟨used, rfl, fun w hw => ?_, fun t ht hgoes => ?_⟩
      · exact hc.perm_tokens.mem_iff.mpr (Command.mem_tokens_of_mem_words hw)
      · rcases hgoes.2 with hsequence | hbackground
        · exact hstops t ht hsequence
        · exact hmark t ht hbackground
    · refine ⟨used ++ [.symbol .background], by simp, fun w hw => ?_, fun t ht hgoes => ?_⟩
      · rw [Command.words_setBackground] at hw
        exact List.mem_append_left _
          (hc.perm_tokens.mem_iff.mpr (Command.mem_tokens_of_mem_words hw))
      · simp [goesOn] at hgoes

end Nonterminal

/-! ## The programs -/

namespace Cursor

variable {c c' : Cursor} {used : List Token}

/-- What was taken stands before the end of the input. -/
theorem Moved.beforeEnd_rest (h : Moved c c' used) :
    beforeEnd c.rest = used ++ beforeEnd c'.rest := by
  rw [h.rest_eq, beforeEnd_append_of_notMem h.endOfInput_notMem]

end Cursor

open Cursor

theorem Agree.eq_withRest {result : Except ParseError Command} {ts : List Token}
    {read : Except Failure (Command × List Token)} (h : Agree Cut Eq (withRest result ts) read) :
    read = withRest result (beforeEnd ts) := by
  cases result with
  | ok c =>
    obtain ⟨_, _, rfl, rfl, rfl⟩ := h.of_ok
    rfl
  | error e =>
    obtain ⟨_, rfl, rfl⟩ := h.of_error
    rfl

namespace Nonterminal

/-- A program comes to what its rule makes of the tokens before the end of the input. -/
theorem read_beforeEnd (n : Nonterminal) (c : Cursor) :
    n.rule.read (beforeEnd c.rest) =
      withRest (n.procedure.run c).1 (beforeEnd (n.procedure.run c).2.rest) := by
  have hagree := n.agree cut_inStep (rfl : Cut c.rest (beforeEnd c.rest))
  rw [(n.procedure.follows c).read_eq] at hagree
  exact hagree.eq_withRest

variable {c d stop : Cursor} {result : Except ParseError Command} {used : List Token}

/-- **A program depends on the tokens before the end of the input alone**: with the same ones before
it, it comes to the same result and takes the same tokens. -/
theorem run_congr (n : Nonterminal) (hrun : n.procedure.run c = (result, stop))
    (hmoved : Moved c stop used) (h : beforeEnd d.rest = beforeEnd c.rest) :
    ∃ stop', n.procedure.run d = (result, stop') ∧ Moved d stop' used := by
  have hread := n.read_beforeEnd d
  rw [h, n.read_beforeEnd c, hrun, withRest_inj] at hread
  obtain ⟨hresult, hrest⟩ := hread
  obtain ⟨used', hmoved'⟩ := (n.procedure.follows d).moved
  obtain rfl : used = used' := by
    have hcut := hmoved'.beforeEnd_rest
    rw [h, hmoved.beforeEnd_rest, ← hrest] at hcut
    exact List.append_cancel_right hcut
  exact ⟨(n.procedure.run d).2, Prod.ext hresult.symm rfl, hmoved'⟩

/-- **A program that succeeds** has taken a token at least, and the words of its tree. -/
theorem run_eq_ok (n : Nonterminal) {root : Command}
    (hrun : n.procedure.run c = (.ok root, stop)) (hmoved : Moved c stop used) :
    used ≠ [] ∧ (∀ w ∈ root.words, .word w ∈ used) ∧ Stops (n.goesOn root) stop.rest := by
  have hread := (n.procedure.follows c).read_eq
  rw [hrun] at hread
  obtain ⟨taken, hne, htaken⟩ := n.rule.takes hread
  obtain ⟨taken', htaken', hwords, hstops⟩ := n.read_eq_ok hread
  obtain rfl : used = taken := List.append_cancel_right (hmoved.rest_eq.symm.trans htaken)
  obtain rfl : used = taken' := List.append_cancel_right (hmoved.rest_eq.symm.trans htaken')
  exact ⟨hne, hwords, hstops⟩

end Nonterminal

/-- **Progress and safety of the rules.** Let the program of a rule start at a place of a list of
tokens, and let `ahead` be the tokens from there to the next end of the input. Then the program
comes to a result, and

* it moves the cursor over tokens of `ahead` only, and comes to what the rule comes to;
* the result, how far the cursor moves and what is handed out depend on `ahead` alone;
* where it succeeds, it has moved over at least one token, and the next token of `ahead`, if there
  is one, is none that the rule goes on with;
* all that was handed out are the words and redirection operators that the cursor has moved over. So
  it was never the stand-in, and the words of the tree are among them. -/
theorem procedure_progress (n : Nonterminal) (tokens : List Token) (place : Nat) :
    let ahead := beforeEnd (tokens.drop place)
    ∃ result stop moved, n.procedure.run (.start tokens place) = (result, stop) ∧
      stop.current = place + moved ∧ moved ≤ ahead.length ∧
      n.rule.read (tokens.drop place) = withRest result (tokens.drop stop.current) ∧
      (∀ tokens' place', beforeEnd (tokens'.drop place') = ahead →
        ∃ stop', n.procedure.run (.start tokens' place') = (result, stop') ∧
          stop'.current = place' + moved ∧ stop'.handedOut = stop.handedOut) ∧
      (∀ root, result = .ok root →
        1 ≤ moved ∧ ∀ t ∈ (ahead.drop moved).head?, ¬ n.goesOn root t) ∧
      stop.handedOut = (ahead.take moved).filter Token.isHandedOut ∧
      .endOfInput ∉ stop.handedOut ∧
      ∀ root, result = .ok root → ∀ w ∈ root.words, .word w ∈ stop.handedOut := by
  intro ahead
  obtain ⟨used, hmoved⟩ := (n.procedure.follows (.start tokens place)).moved
  have hread := (n.procedure.follows (.start tokens place)).read_eq
  rcases hrun : n.procedure.run (.start tokens place) with ⟨result, stop⟩
  rw [hrun] at hmoved hread
  have hahead : ahead = used ++ beforeEnd stop.rest := hmoved.beforeEnd_rest
  have htake : ahead.take used.length = used := by rw [hahead, List.take_left]
  have hhanded : stop.handedOut = used.filter Token.isHandedOut := hmoved.handedOut_eq
  refine ⟨result, stop, used.length, rfl, hmoved.current_eq, ?_, ?_, ?_, ?_, ?_, ?_, ?_⟩
  · rw [hahead, List.length_append]
    exact Nat.le_add_right _ _
  · rw [hmoved.drop_start]
    exact hread
  · intro tokens' place' hsame
    obtain ⟨stop', hrun', hmoved'⟩ := n.run_congr hrun hmoved (d := .start tokens' place') hsame
    exact ⟨stop', hrun', hmoved'.current_eq, hmoved'.handedOut_eq.trans hhanded.symm⟩
  · rintro root rfl
    obtain ⟨hne, -, hstops⟩ := n.run_eq_ok hrun hmoved
    rw [hahead, List.drop_left]
    exact ⟨List.length_pos_iff.mpr hne, stops_beforeEnd hstops⟩
  · rw [htake, hhanded]
  · rw [hhanded]
    exact fun hmem => hmoved.endOfInput_notMem (List.mem_filter.mp hmem).1
  · rintro root rfl w hw
    rw [hhanded]
    exact List.mem_filter.mpr ⟨(n.run_eq_ok hrun hmoved).2.1 w hw, isHandedOut_word w⟩

end LineShell
