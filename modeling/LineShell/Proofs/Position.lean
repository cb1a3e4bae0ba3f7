import LineShell.Proofs.Grammar
import Mathlib

/-!
# Where and why parsing fails

Which tokens may follow a token does not depend on the nesting of the grammar, only on that token:
the binding strengths decide the tree, not what is accepted. `Place` says what a prefix of a line
expects next, `Place.run` reads a prefix from left to right, and the two meet the parser twice:

* every derivation runs from the start of a command to a place where a line may end
  (`Grammar.Line.run`);
* every failure of a rule is at the first token that the place before it does not admit, and its
  cause is the one that belongs to the place (`Stuck`, one lemma for each rule).

So the parser accepts exactly what runs to its end (`accepted_iff`), which gives both halves of the
correct-prefix property.

Headlines:
* `parseTokens_stuck`, `exists_place_of_parseTokens_eq_error`: what is known of a failure, in terms
  of places.
* **`parseTokens_eq_error_position`**: the tokens before a failure can be completed, those up to
  and with the failing one cannot, and the token before it tells the cause.
-/

namespace LineShell

open Grammar

/-! ## Places -/

/-- What is expected next. -/
inductive Place where
  /-- The name of a command. -/
  | start
  /-- The target of a redirection. -/
  | target (kind : RedirectKind)
  /-- More of a command, a connective, the background mark, or the end. -/
  | inside
  /-- The end. -/
  | closed
  deriving DecidableEq, Repr

namespace Place

/-- The place after a token. -/
def after : Token → Place
  | .word _ => inside
  | .symbol (.connective _) => start
  | .symbol (.redirect kind) => target kind
  | .symbol .background => closed
  | .symbol .newline => closed
  | .endOfInput => closed

/-- May the token stand at this place? -/
def admits : Place → Token → Bool
  | start, .word w => !w.isEmpty
  | target _, .word _ => true
  | inside, t => t != .symbol .newline && t != .endOfInput
  | _, _ => false

/-- The place that a row of tokens leads to, if each of them is admitted at its own. -/
def run (p : Place) : List Token → Option Place
  | [] => some p
  | t :: ts => if p.admits t then (after t).run ts else none

/-- May a line end here? -/
def final : Place → Bool
  | inside => true
  | closed => true
  | _ => false

/-- The cause of a failure at this place. -/
def error : Place → ParseError
  | start => .expectedCommand
  | target kind => .expectedFilename kind
  | inside => .unexpectedTrailingTokens
  | closed => .unexpectedTrailingTokens

theorem run_append (p : Place) (ts us : List Token) :
    p.run (ts ++ us) = (p.run ts).bind (·.run us) := by
  induction ts generalizing p with
  | nil => rfl
  | cons t ts ih =>
    rw [List.cons_append, run, run]
    split
    · exact ih _
    · rfl

theorem run_singleton {p : Place} {t : Token} (h : p.admits t = true) :
    p.run [t] = some (after t) := by
  rw [run, if_pos h, run]

theorem admits_of_run_cons {p q : Place} {t : Token} {ts : List Token}
    (h : p.run (t :: ts) = some q) : p.admits t = true := by
  rw [run] at h
  split at h
  · assumption
  · simp at h

/-- Only the last token decides where a row leads. -/
theorem eq_after_of_run {p q : Place} {ts : List Token} {t : Token}
    (h : p.run (ts ++ [t]) = some q) : q = after t := by
  rw [run_append] at h
  obtain ⟨r, -, hr⟩ := Option.bind_eq_some_iff.mp h
  rw [run_singleton (admits_of_run_cons hr)] at hr
  exact (Option.some.inj hr).symm

theorem endOfInput_notMem_of_run {p q : Place} {ts : List Token} (h : p.run ts = some q) :
    Token.endOfInput ∉ ts := by
  induction ts generalizing p with
  | nil => simp
  | cons t ts ih =>
    have ht := admits_of_run_cons h
    rw [run, if_pos ht] at h
    rw [List.mem_cons, not_or]
    refine ⟨?_, ih h⟩
    rintro rfl
    cases p <;> simp [admits] at ht

theorem admits_word {p : Place} (h : p ≠ closed) {w : String} (hw : w ≠ "") :
    p.admits (.word w) = true := by
  cases p <;> simp_all [admits]

theorem error_eq_expectedCommand_iff {p : Place} : p.error = .expectedCommand ↔ p = start := by
  cases p <;> simp [error]

theorem error_eq_expectedFilename_iff {p : Place} {kind : RedirectKind} :
    p.error = .expectedFilename kind ↔ p = target kind := by
  cases p <;> simp [error]

theorem error_eq_unexpectedTrailingTokens_iff {p : Place} :
    p.error = .unexpectedTrailingTokens ↔ p.final = true := by
  cases p <;> simp [error, final]

theorem after_eq_start_iff {t : Token} : after t = start ↔ ∃ op, t = .symbol (.connective op) := by
  fun_cases after t <;> simp

theorem after_eq_target_iff {t : Token} {kind : RedirectKind} :
    after t = target kind ↔ t = .symbol (.redirect kind) := by
  fun_cases after t <;> simp

end Place

open Place

/-! ## Derivations run to their end -/

theorem Grammar.Simple.run {ts : List Token} {c : SimpleCommand} (h : Simple ts c) :
    start.run ts = some inside := by
  induction h with
  | name hw => simpa [Place.run, admits, after] using hw
  | argument w _ ih =>
    rw [run_append, ih]
    rfl
  | redirection kind w _ ih =>
    rw [run_append, ih]
    rfl

theorem Grammar.Leaf.run {ts : List Token} {t : Command} (h : Leaf ts t) :
    start.run ts = some inside := by
  obtain ⟨c, hc, -⟩ := h
  exact hc.run

theorem Grammar.Chain.run {op : Connective} {P : List Token → Command → Prop}
    (hP : ∀ {ts c}, P ts c → start.run ts = some inside) {ts : List Token} {c : Command}
    (h : Chain op P ts c) : start.run ts = some inside := by
  induction h with
  | operand h => exact hP h
  | more _ h ih =>
    rw [run_append, ih]
    exact hP h

theorem Grammar.Pipeline.run {ts : List Token} {c : Command} (h : Pipeline ts c) :
    start.run ts = some inside :=
  Chain.run Leaf.run h

theorem Grammar.Conjunction.run {ts : List Token} {c : Command} (h : Conjunction ts c) :
    start.run ts = some inside :=
  Chain.run Pipeline.run h

theorem Grammar.Disjunction.run {ts : List Token} {c : Command} (h : Disjunction ts c) :
    start.run ts = some inside :=
  Chain.run Conjunction.run h

theorem Grammar.Sequence.run {ts : List Token} {c : Command} (h : Sequence ts c) :
    start.run ts = some inside :=
  Chain.run Disjunction.run h

theorem Grammar.Sequence.run_background {ts : List Token} {c : Command} (h : Sequence ts c) :
    start.run (ts ++ [.symbol .background]) = some closed := by
  rw [run_append, h.run]
  rfl

theorem Grammar.Line.run {ts : List Token} {c : Command} (h : Line ts c) :
    ∃ q, start.run ts = some q ∧ q.final = true := by
  cases h with
  | foreground h => exact ⟨inside, h.run, rfl⟩
  | background h => exact ⟨closed, h.run_background, rfl⟩

/-! ## Rules fail where a place admits nothing more -/

/-- **A failure in the middle of a command**: the tokens before it lead from `p` to a place where no
line may end, which does not admit the next token and gives the cause. -/
def Stuck (p : Place) (ts : List Token) (f : Failure) : Prop :=
  ∃ used q, ts = used ++ f.rest ∧ p.run used = some q ∧ q.final = false ∧ q.error = f.error ∧
    ∀ t ∈ f.rest.head?, q.admits t = false

theorem Stuck.append {p q : Place} {ts : List Token} {f : Failure} (h : Stuck q ts f)
    (used : List Token) (hp : p.run used = some q) : Stuck p (used ++ ts) f := by
  obtain ⟨more, r, rfl, hr, hrest⟩ := h
  refine ⟨used ++ more, r, by simp, ?_, hrest⟩
  rw [run_append, hp]
  exact hr

/-- At a place where no line may end, and before a token that it does not admit. -/
theorem stuck_here {p : Place} {ts : List Token} (hp : p.final = false)
    (hts : ∀ t ∈ ts.head?, p.admits t = false) : Stuck p ts ⟨p.error, ts⟩ :=
  ⟨[], p, rfl, rfl, hp, rfl, hts⟩

theorem map_eq_error_iff {ε α β : Type} {x : Except ε α} {f : α → β} {e : ε} :
    x.map f = .error e ↔ x = .error e := by
  cases x <;> simp [Except.map]

/-- Where no line may end, only a word may be admitted. -/
theorem Place.admits_eq_false_of_no_word {p : Place} (hp : p.final = false) {ts : List Token}
    (h : ∀ w us, ts = .word w :: us → False) : ∀ t ∈ ts.head?, p.admits t = false := by
  intro t ht
  obtain ⟨us, rfl⟩ : ∃ us, ts = t :: us := List.head?_eq_some_iff.mp ht
  cases t with
  | word w => exact absurd rfl (h w us)
  | symbol mark => cases p <;> simp_all [final, admits]
  | endOfInput => cases p <;> simp_all [final, admits]

theorem readParts_stuck {ts : List Token} {f : Failure} (h : readParts ts = .error f) :
    Stuck inside ts f := by
  fun_induction readParts ts with
  | case1 w ts ih => exact (ih (map_eq_error_iff.mp h)).append [.word w] rfl
  | case2 kind w ts ih =>
    exact (ih (map_eq_error_iff.mp h)).append [.symbol (.redirect kind), .word w] rfl
  | case3 kind ts hfile =>
    obtain rfl : ⟨.expectedFilename kind, ts⟩ = f := by simpa using h
    have stuck : Stuck (target kind) ts ⟨.expectedFilename kind, ts⟩ :=
      stuck_here rfl (admits_eq_false_of_no_word rfl hfile)
    exact stuck.append [.symbol (.redirect kind)] rfl
  | case4 => simp at h

theorem simpleRule_stuck {ts : List Token} {f : Failure} (h : simpleRule.read ts = .error f) :
    Stuck start ts f := by
  change readSimple ts = .error f at h
  unfold readSimple at h
  split at h
  · next name ts =>
    split at h
    · next hn =>
      obtain rfl := Except.error.inj h
      exact stuck_here rfl (by simpa [admits] using hn)
    · next hn =>
      refine (readParts_stuck (map_eq_error_iff.mp h)).append [.word name] (run_singleton ?_)
      simpa [admits] using hn
  · next hword =>
    obtain rfl := Except.error.inj h
    exact stuck_here rfl (admits_eq_false_of_no_word rfl hword)

section Chains

variable {r : Rule Command} {P : List Token → Command → Prop} {goesOn : Token → Prop}
  {op : Connective}

theorem readChain_stuck (hr : Recognises r P goesOn)
    (hP : ∀ {ts c}, P ts c → start.run ts = some inside)
    (hstuck : ∀ {ts f}, r.read ts = .error f → Stuck start ts f) {left : Command}
    {ts : List Token} {f : Failure} (h : r.readChain op left ts = .error f) :
    Stuck inside ts f := by
  fun_induction Rule.readChain op r left ts with
  | case1 => simp at h
  | case2 left ts us he e hread =>
    obtain rfl : e = f := by simpa using h
    rw [eat_eq_some_iff.mp he]
    exact (hstuck hread).append [.symbol (.connective op)] rfl
  | case3 left ts us he right rest hread ih =>
    obtain ⟨used, rfl, hc, -⟩ := hr.sound hread
    rw [eat_eq_some_iff.mp he]
    have hrun : inside.run (.symbol (.connective op) :: used) = some inside := hP hc
    exact (ih h).append _ hrun

/-- **Rows fail like their operands**, each at its own place. -/
theorem chain_stuck (hr : Recognises r P goesOn)
    (hP : ∀ {ts c}, P ts c → start.run ts = some inside)
    (hstuck : ∀ {ts f}, r.read ts = .error f → Stuck start ts f) {ts : List Token} {f : Failure}
    (h : (r.chain op).read ts = .error f) : Stuck start ts f := by
  simp only [Rule.chain] at h
  split at h
  · next e hread =>
    obtain rfl : e = f := by simpa using h
    exact hstuck hread
  · next left us hread =>
    obtain ⟨used, rfl, hc, -⟩ := hr.sound hread
    exact (readChain_stuck hr hP hstuck h).append used (hP hc)

end Chains

theorem sequenceRule_stuck {ts : List Token} {f : Failure}
    (h : sequenceRule.read ts = .error f) : Stuck start ts f := by
  have pipeline : ∀ {ts f}, pipelineRule.read ts = .error f → Stuck start ts f :=
    chain_stuck simpleRule_recognises Leaf.run simpleRule_stuck
  have conjunction : ∀ {ts f}, conjunctionRule.read ts = .error f → Stuck start ts f :=
    chain_stuck pipelineRule_recognises Pipeline.run pipeline
  have disjunction : ∀ {ts f}, disjunctionRule.read ts = .error f → Stuck start ts f :=
    chain_stuck conjunctionRule_recognises Conjunction.run conjunction
  exact chain_stuck disjunctionRule_recognises Disjunction.run disjunction h

theorem commandRule_stuck {ts : List Token} {f : Failure} (h : commandRule.read ts = .error f) :
    Stuck start ts f := by
  simp only [commandRule] at h
  split at h
  · next e hr =>
    obtain rfl : e = f := by simpa using h
    exact sequenceRule_stuck hr
  · split at h <;> simp at h

/-! ## Whole lists of tokens -/

/-- Some tree is read from the tokens. -/
def Accepted (ts : List Token) : Prop :=
  ∃ c, parseTokens ts = .ok c

theorem beforeEnd_eq_nil_iff {ts : List Token} : beforeEnd ts = [] ↔ atEnd ts = true := by
  unfold beforeEnd
  fun_cases atEnd ts with
  | case1 => simp
  | case2 => simp
  | case3 ts hnil hend =>
    cases ts with
    | nil => exact absurd rfl hnil
    | cons t ts =>
      have ht : t ≠ .endOfInput := by
        rintro rfl
        exact hend ts rfl
      simp [ht]

/-- A place admits what it runs over. -/
theorem Place.admits_of_run {p q : Place} {ts : List Token} (h : p.run (beforeEnd ts) = some q)
    (hend : atEnd ts = false) : ∃ t ∈ ts.head?, p.admits t = true := by
  cases ts with
  | nil => simp [atEnd] at hend
  | cons t ts =>
    have ht : t ≠ .endOfInput := by
      rintro rfl
      simp [atEnd] at hend
    rw [beforeEnd, List.takeWhile_cons_of_pos (by simpa using ht)] at h
    exact ⟨t, rfl, admits_of_run_cons h⟩

/-- **A failure in terms of places**: the tokens before it lead to a place that does not admit the
next token and that gives the cause. If a line might have ended there, there is a next token. -/
theorem parseTokens_stuck {ts : List Token} {f : Failure} (h : parseTokens ts = .error f) :
    ∃ used q, ts = used ++ f.rest ∧ start.run used = some q ∧ q.error = f.error ∧
      (∀ t ∈ f.rest.head?, q.admits t = false) ∧ (q.final = true → atEnd f.rest = false) := by
  unfold parseTokens at h
  split at h
  · next e hr =>
    obtain rfl := Except.error.inj h
    obtain ⟨used, q, hts, hrun, hfinal, herror, hq⟩ := commandRule_stuck hr
    exact ⟨used, q, hts, hrun, herror, hq, by simp [hfinal]⟩
  · next c rest hr =>
    split at h
    · simp at h
    · next hend =>
      obtain rfl : ⟨.unexpectedTrailingTokens, rest⟩ = f := by simpa using h
      have hend : atEnd rest = false := by simpa using hend
      rcases commandRule_eq_ok_iff.mp hr with ⟨used, rfl, hP, hs, hb⟩ | ⟨used, root, rfl, hP, -⟩
      · refine ⟨used, inside, rfl, hP.run, rfl, fun t ht => ?_, fun _ => hend⟩
        have hs := hs t ht
        cases t with
        | word w => exact absurd (inSequence_word w) hs
        | endOfInput => rfl
        | symbol mark =>
          cases mark with
          | connective op => exact absurd (inSequence_connective op) hs
          | redirect kind => exact absurd (inSequence_redirect kind) hs
          | background => exact absurd rfl (hb _ ht)
          | newline => rfl
      · exact ⟨used ++ [.symbol .background], closed, by simp, hP.run_background, rfl,
          fun t _ => by cases t <;> rfl, fun _ => hend⟩

/-- **Acceptance is a walk over places**: the parser accepts what leads, up to the end of the input,
from the start of a command to a place where a line may end. -/
theorem accepted_iff {ts : List Token} :
    Accepted ts ↔ ∃ q, start.run (beforeEnd ts) = some q ∧ q.final = true := by
  constructor
  · rintro ⟨c, hc⟩
    exact (line_of_parseTokens hc).run
  · rintro ⟨q, hrun, hfinal⟩
    cases hparse : parseTokens ts with
    | ok c => exact ⟨c, hparse⟩
    | error f =>
      exfalso
      obtain ⟨used, p, rfl, hp, -, hadmits, hend⟩ := parseTokens_stuck hparse
      rw [beforeEnd_append_of_notMem (endOfInput_notMem_of_run hp), run_append, hp] at hrun
      have hrun : p.run (beforeEnd f.rest) = some q := hrun
      by_cases he : atEnd f.rest = true
      · -- nothing is left, so the line ends at the place of the failure
        rw [beforeEnd_eq_nil_iff.mpr he] at hrun
        obtain rfl := Option.some.inj hrun
        rw [hend hfinal] at he
        exact Bool.false_ne_true he
      · obtain ⟨t, ht, hadmit⟩ := admits_of_run hrun (by simpa using he)
        rw [hadmits t ht] at hadmit
        exact Bool.false_ne_true hadmit

theorem accepted_iff_of_run {used : List Token} {q : Place} (h : start.run used = some q) :
    Accepted used ↔ q.final = true := by
  have hused : beforeEnd used = used := by
    simpa [beforeEnd] using beforeEnd_append_of_notMem (endOfInput_notMem_of_run h) []
  rw [accepted_iff, hused, h]
  simp

/-- What leads to some place can be completed: by nothing, or by one word. -/
theorem exists_accepted_of_run {used : List Token} {q : Place} (h : start.run used = some q) :
    ∃ us, Accepted us ∧ used <+: us := by
  by_cases hq : q.final = true
  · exact ⟨used, (accepted_iff_of_run h).mpr hq, List.prefix_rfl⟩
  · have hclosed : q ≠ closed := by
      rintro rfl
      exact hq rfl
    have hword : start.run (used ++ [.word "a"]) = some inside := by
      rw [run_append, h]
      exact run_singleton (admits_word hclosed (by decide))
    exact ⟨used ++ [.word "a"], (accepted_iff_of_run hword).mpr rfl, List.prefix_append _ _⟩

/-- A token that is not admitted cannot be part of an accepted list after the tokens before it. -/
theorem not_accepted_of_admits_eq_false {used : List Token} {q : Place} {t : Token}
    (h : start.run used = some q) (ht : t ≠ .endOfInput) (hadmits : q.admits t = false)
    {us : List Token} (hus : Accepted us) : ¬ used ++ [t] <+: us := by
  rintro ⟨more, rfl⟩
  obtain ⟨r, hrun, -⟩ := accepted_iff.mp hus
  rw [List.append_assoc, beforeEnd_append_of_notMem (endOfInput_notMem_of_run h), run_append, h]
    at hrun
  have hrun : q.run (beforeEnd (t :: more)) = some r := hrun
  rw [beforeEnd, List.takeWhile_cons_of_pos (by simpa using ht)] at hrun
  rw [admits_of_run_cons hrun] at hadmits
  exact Bool.false_ne_true hadmits.symm

/-- A place is the start of all, or the one after the token before it. -/
theorem Place.eq_start_or_eq_after {used : List Token} {q : Place} (h : start.run used = some q)
    (rest : List Token) : (used = [] ∧ q = start) ∨
      ∃ t, (used ++ rest)[used.length - 1]? = some t ∧ 0 < used.length ∧ q = after t := by
  rcases List.eq_nil_or_concat used with rfl | ⟨us, t, rfl⟩
  · exact .inl ⟨rfl, (Option.some.inj h).symm⟩
  · refine .inr ⟨t, by simp, by simp, ?_⟩
    rw [List.concat_eq_append] at h
    exact eq_after_of_run h

theorem Place.eq_target_iff_of_run {used : List Token} {q : Place} (h : start.run used = some q)
    (rest : List Token) (kind : RedirectKind) : q = target kind ↔ 1 ≤ used.length ∧
      (used ++ rest)[used.length - 1]? = some (.symbol (.redirect kind)) := by
  rcases eq_start_or_eq_after h rest with ⟨rfl, rfl⟩ | ⟨t, ht, hpos, rfl⟩
  · simp
  · rw [after_eq_target_iff, ht, Option.some.injEq, and_iff_right (Nat.succ_le_of_lt hpos)]

theorem Place.eq_start_iff_of_run {used : List Token} {q : Place} (h : start.run used = some q)
    (rest : List Token) : q = start ↔ used.length = 0 ∨
      ∃ op, (used ++ rest)[used.length - 1]? = some (.symbol (.connective op)) := by
  rcases eq_start_or_eq_after h rest with ⟨rfl, rfl⟩ | ⟨t, ht, hpos, rfl⟩
  · simp
  · rw [after_eq_start_iff, ht, or_iff_right (Nat.ne_of_gt hpos)]
    simp only [Option.some.injEq]

/-- **The failure, by its position**: the place after the tokens before it, and the token that this
place does not admit, if there is one before the end of the input. -/
theorem exists_place_of_parseTokens_eq_error {ts : List Token} {f : Failure}
    (h : parseTokens ts = .error f) :
    ∃ used q, ts = used ++ f.rest ∧ f.position ts = used.length ∧ start.run used = some q ∧
      q.error = f.error ∧ used.length ≤ (beforeEnd ts).length ∧
      (q.final = true → used.length < (beforeEnd ts).length) ∧
      (used.length < (beforeEnd ts).length → ∃ t rest, f.rest = t :: rest ∧ t ≠ .endOfInput ∧
        q.admits t = false) := by
  obtain ⟨used, q, hts, hrun, herror, hadmits, hend⟩ := parseTokens_stuck h
  have hposition : f.position ts = used.length := by
    rw [Failure.position, hts, List.length_append, Nat.add_sub_cancel]
  have hlength : (beforeEnd ts).length = used.length + (beforeEnd f.rest).length := by
    rw [← List.length_append, ← beforeEnd_append_of_notMem (endOfInput_notMem_of_run hrun), ← hts]
  have hmore : used.length < (beforeEnd ts).length ↔ atEnd f.rest = false := by
    rw [← Bool.not_eq_true, ← beforeEnd_eq_nil_iff, ← List.length_eq_zero_iff]
    omega
  refine ⟨used, q, hts, hposition, hrun, herror, by omega, fun hq => hmore.mpr (hend hq), ?_⟩
  intro hlt
  have hrest := hmore.mp hlt
  cases hr : f.rest with
  | nil => simp [hr, atEnd] at hrest
  | cons t rest =>
    refine ⟨t, rest, rfl, ?_, hadmits t (by rw [hr]; rfl)⟩
    rintro rfl
    simp [hr, atEnd] at hrest

/-- **Correct prefixes.** Let parsing fail after `n` tokens, and let `m` tokens stand before the end
of the input. The `n` tokens begin some accepted list. If there is one more before the end, they
begin none with it. The cause is told by the token before the failure: a redirection operator, a
connective (or nothing at all); otherwise the `n` tokens are accepted, and there are more. -/
theorem parseTokens_eq_error_position {ts : List Token} {f : Failure}
    (h : parseTokens ts = .error f) :
    let n := f.position ts
    let m := (beforeEnd ts).length
    n ≤ m ∧ (∃ us, Accepted us ∧ ts.take n <+: us) ∧
      (n < m → ∀ us, Accepted us → ¬ ts.take (n + 1) <+: us) ∧
      (∀ kind, f.error = .expectedFilename kind ↔
        1 ≤ n ∧ ts[n - 1]? = some (.symbol (.redirect kind))) ∧
      (f.error = .expectedCommand ↔
        n = 0 ∨ ∃ op, ts[n - 1]? = some (.symbol (.connective op))) ∧
      (f.error = .unexpectedTrailingTokens ↔ n < m ∧ Accepted (ts.take n)) := by
  intro n m
  obtain ⟨used, q, hts, hn, hrun, herror, hle, hfinal, hmore⟩ :=
    exists_place_of_parseTokens_eq_error h
  have hn : n = used.length := hn
  have htake : ts.take n = used := by rw [hn, hts, List.take_left]
  rw [htake, ← herror, hn]
  refine ⟨hle, exists_accepted_of_run hrun, fun hlt us hus => ?_, fun kind => ?_, ?_, ?_⟩
  · obtain ⟨t, rest, hrest, ht, hadmits⟩ := hmore hlt
    have htake' : ts.take (used.length + 1) = used ++ [t] := by
      rw [hts, hrest, List.take_length_add_append]
      rfl
    rw [htake']
    exact not_accepted_of_admits_eq_false hrun ht hadmits hus
  · rw [error_eq_expectedFilename_iff, hts]
    exact eq_target_iff_of_run hrun f.rest kind
  · rw [error_eq_expectedCommand_iff, hts]
    exact eq_start_iff_of_run hrun f.rest
  · rw [error_eq_unexpectedTrailingTokens_iff, accepted_iff_of_run hrun]
    exact ⟨fun hq => ⟨hfinal hq, hq⟩, fun hq => hq.2⟩

/-- `a ; b > | c` fails after `>`: a word can follow, and no accepted line goes on with `|`. -/
theorem position_of_missing_target :
    let before : List Token :=
      [.word "a", .symbol (.connective .sequence), .word "b", .symbol (.redirect .output)]
    let pipe : Token := .symbol (.connective .pipeline)
    parseTokens (before ++ [pipe, .word "c"]) =
        .error ⟨.expectedFilename .output, [pipe, .word "c"]⟩ ∧
      (∃ us, Accepted us ∧ before <+: us) ∧ ∀ us, Accepted us → ¬ before ++ [pipe] <+: us := by
  intro before pipe
  have h : parseTokens (before ++ [pipe, .word "c"]) =
      .error ⟨.expectedFilename .output, [pipe, .word "c"]⟩ := by cbv
  obtain ⟨-, hcan, hcannot, -⟩ := parseTokens_eq_error_position h
  exact ⟨h, hcan, hcannot (by decide)⟩

end LineShell
