import LineShell.Command.Basic
import LineShell.Command.Failure

/-!
# Rules of the grammar

A `Rule` reads tokens from the front of a list and leaves the others. It takes at least one token,
which is a field of its type, so `Rule.chain`, the row of operands with one connective between
them, ends without a bound of its own.

Models what the rules in the module `parser` have in common: `eat`, and the loop over operands in
`parse_pipeline`, `parse_logical_and`, `parse_logical_or` and `parse_command`.

Headlines:
* **`Rule.length_lt`**: what a rule leaves is shorter than what it was given.
-/

namespace LineShell

/-! ## Results -/

theorem map_eq_ok_iff {ε α β : Type} {x : Except ε α} {f : α → β} {b : β} :
    x.map f = .ok b ↔ ∃ a, x = .ok a ∧ f a = b := by
  cases x <;> simp [Except.map]

/-! ## Rules -/

/-- A part of the grammar: it reads a front part of the tokens, never an empty one. -/
structure Rule (α : Type) where
  read : List Token → Except Failure (α × List Token)
  takes : ∀ {ts a rest}, read ts = .ok (a, rest) → ∃ used, used ≠ [] ∧ ts = used ++ rest

theorem Rule.length_lt {α : Type} (r : Rule α) {ts rest : List Token} {a : α}
    (h : r.read ts = .ok (a, rest)) : rest.length < ts.length := by
  obtain ⟨used, hne, rfl⟩ := r.takes h
  have := List.length_pos_iff.mpr hne
  simp only [List.length_append]
  omega

/-- What follows `mark`, if it stands at the front. -/
def eat (mark : Symbol) : List Token → Option (List Token)
  | .symbol m :: ts => if m = mark then some ts else none
  | _ => none

theorem eat_eq_some_iff {mark : Symbol} {ts us : List Token} :
    eat mark ts = some us ↔ ts = .symbol mark :: us := by
  unfold eat
  split
  · split <;> simp_all
  · simp_all

/-! ## Chains -/

/-- More operands after `left`, each after the connective `op`; the tree grows to the left. -/
def Rule.readChain (op : Connective) (operand : Rule Command) (left : Command)
    (ts : List Token) : Except Failure (Command × List Token) :=
  match _eaten : eat (.connective op) ts with
  | none => .ok (left, ts)
  | some us =>
    match _read : operand.read us with
    | .error e => .error e
    | .ok (right, rest) => readChain op operand (left.join op right) rest
termination_by ts.length
decreasing_by
  have := operand.length_lt _read
  rw [eat_eq_some_iff.mp _eaten, List.length_cons]
  omega

theorem Rule.readChain_takes (op : Connective) (operand : Rule Command) {left a : Command}
    {ts rest : List Token} (h : operand.readChain op left ts = .ok (a, rest)) :
    ∃ used, ts = used ++ rest := by
  fun_induction Rule.readChain op operand left ts with
  | case1 left ts =>
    obtain ⟨-, rfl⟩ : left = a ∧ ts = rest := by simpa using h
    exact ⟨[], rfl⟩
  | case2 => simp at h
  | case3 left ts us he right rest' hr ih =>
    obtain ⟨used, rfl⟩ := ih h
    obtain ⟨used', -, rfl⟩ := operand.takes hr
    exact ⟨.symbol (.connective op) :: (used' ++ used), by
      rw [eat_eq_some_iff.mp he]; simp⟩

/-- One operand or more, with `op` between them. -/
def Rule.chain (op : Connective) (operand : Rule Command) : Rule Command where
  read ts :=
    match operand.read ts with
    | .error e => .error e
    | .ok (left, rest) => operand.readChain op left rest
  takes := by
    intro ts a rest h
    split at h
    · simp at h
    · next left us hr =>
      obtain ⟨used, hne, rfl⟩ := operand.takes hr
      obtain ⟨used', rfl⟩ := Rule.readChain_takes op operand h
      exact ⟨used ++ used', by simp [hne], by simp⟩

end LineShell
