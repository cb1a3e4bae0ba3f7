import LineShell.Proofs.Grammar
import Mathlib.Data.List.Induction
import Mathlib.Data.List.Perm.Basic
import Mathlib.Tactic.MkIffOfInductiveProp

/-!
# The trees that the grammar derives

A tree can be built in any way; the grammar derives only some. Each connective has a `strength`, and
in a tree of the parser's shape (`Command.Shaped`) the left operand of a node binds at least as
tight as the node, the right one tighter. `Command.tokens` writes a tree back as tokens, the
arguments of a simple command before its redirections.

Headlines:
* `sequence_of_shaped`: a tree of the parser's shape, without background marks and without empty
  names, is derived from its own tokens.
* `Grammar.Sequence.fits`, `Grammar.Sequence.named`: every tree that is derived is of that kind.
* `Grammar.line_iff`: a line is a sequence, and the mark of its root.
* `Grammar.Line.writable`, `Command.Writable.line`: the trees that lines have.
* **`Grammar.Line.perm_tokens`**: a line has the tokens of its tree, only argument and redirections
  of a simple command may be mixed.
-/

namespace LineShell

open Grammar

/-! ## Shape -/

/-- How tight a connective binds. -/
def Connective.strength : Connective → Nat
  | sequence => 0
  | or => 1
  | and => 2
  | pipeline => 3

namespace Command

/-- How tight the root binds; a simple command binds tighter than all connectives. -/
def strength : Command → Nat
  | simple _ _ => 4
  | node op _ _ _ => op.strength

/-- **The parser's shape**: left operands bind at least as tight as their node, right ones tighter.
So the right operand of a pipeline is simple, and no row of one connective is nested to the right.
-/
def Shaped : Command → Prop
  | simple _ _ => True
  | node op left right _ =>
    (op.strength ≤ left.strength ∧ op.strength < right.strength) ∧ left.Shaped ∧ right.Shaped

/-- No node is marked as running in the background. -/
def Foreground : Command → Prop
  | simple _ background => background = false
  | node _ left right background => background = false ∧ left.Foreground ∧ right.Foreground

instance decidableShaped : (c : Command) → Decidable c.Shaped
  | simple _ _ => inferInstanceAs (Decidable True)
  | node op left right _ =>
    have := decidableShaped left
    have := decidableShaped right
    inferInstanceAs (Decidable ((op.strength ≤ left.strength ∧ op.strength < right.strength) ∧
      left.Shaped ∧ right.Shaped))

instance decidableForeground : (c : Command) → Decidable c.Foreground
  | simple _ background => inferInstanceAs (Decidable (background = false))
  | node _ left right background =>
    have := decidableForeground left
    have := decidableForeground right
    inferInstanceAs (Decidable (background = false ∧ left.Foreground ∧ right.Foreground))

/-- The simple commands of a tree, from left to right. -/
def leaves : Command → List SimpleCommand
  | simple body _ => [body]
  | node _ left right _ => left.leaves ++ right.leaves

end Command

/-! ## Tokens of a tree -/

def Redirection.tokens (r : Redirection) : List Token :=
  [.symbol (.redirect r.kind), .word r.target]

/-- The name, the arguments, then the redirections. -/
def SimpleCommand.tokens (c : SimpleCommand) : List Token :=
  c.argv.map Token.word ++ c.redirections.flatMap Redirection.tokens

/-- The tokens of the simple commands, with the connectives between them. -/
def Command.tokens : Command → List Token
  | simple body _ => body.tokens
  | node op left right _ => left.tokens ++ .symbol (.connective op) :: right.tokens

theorem Command.Foreground.isBackground_eq {c : Command} (h : c.Foreground) :
    c.isBackground = false := by
  cases c with
  | simple => exact h
  | node => exact h.1

@[simp] theorem Command.setBackground_setBackground (a b : Bool) (c : Command) :
    (c.setBackground a).setBackground b = c.setBackground b := by
  cases c <;> rfl

theorem Command.setBackground_eq_self {c : Command} {b : Bool} (h : c.isBackground = b) :
    c.setBackground b = c := by
  rw [← h, setBackground_isBackground]

@[simp] theorem Command.tokens_setBackground (b : Bool) (c : Command) :
    (c.setBackground b).tokens = c.tokens := by
  cases c <;> rfl

@[simp] theorem Command.leaves_setBackground (b : Bool) (c : Command) :
    (c.setBackground b).leaves = c.leaves := by
  cases c <;> rfl

@[simp] theorem Command.shaped_setBackground {b : Bool} {c : Command} :
    (c.setBackground b).Shaped ↔ c.Shaped := by
  cases c <;> rfl

/-! ## From trees to derivations -/

namespace Grammar

/-- The rows of a connective. -/
def Row : Connective → List Token → Command → Prop
  | .pipeline => Pipeline
  | .and => Conjunction
  | .or => Disjunction
  | .sequence => Sequence

/-- The operands in the rows of a connective. -/
def Operand : Connective → List Token → Command → Prop
  | .pipeline => Leaf
  | .and => Pipeline
  | .or => Conjunction
  | .sequence => Disjunction

theorem row_eq_chain (op : Connective) : Row op = Chain op (Operand op) := by
  cases op <;> rfl

theorem Operand.row {op : Connective} {ts : List Token} {c : Command} (h : Operand op ts c) :
    Row op ts c := by
  rw [row_eq_chain]
  exact .operand h

/-- What is a row at one level is an operand at every looser one. -/
theorem Row.operand_of_lt {op op' : Connective} {ts : List Token} {c : Command} (h : Row op ts c)
    (hlt : op'.strength < op.strength) : Operand op' ts c := by
  cases op' with
  | pipeline => cases op <;> simp [Connective.strength] at hlt
  | and =>
    cases op with
    | pipeline => exact h
    | _ => simp [Connective.strength] at hlt
  | or =>
    cases op with
    | pipeline => exact .operand h
    | and => exact h
    | _ => simp [Connective.strength] at hlt
  | sequence =>
    cases op with
    | pipeline => exact .operand (.operand h)
    | and => exact .operand h
    | or => exact h
    | sequence => simp [Connective.strength] at hlt

theorem Leaf.operand {ts : List Token} {c : Command} (h : Leaf ts c) (op : Connective) :
    Operand op ts c := by
  have hrow : Row .pipeline ts c := .operand h
  cases op with
  | pipeline => exact h
  | _ => exact hrow.operand_of_lt (by decide)

/-- A simple command is derived from its name, its arguments and its redirections in this order. -/
theorem simple_tokens {c : SimpleCommand} (h : c.name ≠ "") : Simple c.tokens c := by
  obtain ⟨name, arguments, redirections⟩ := c
  replace h : name ≠ "" := h
  have words : Simple ((name :: arguments).map Token.word) ⟨name, arguments, []⟩ := by
    induction arguments using List.reverseRecOn with
    | nil => exact .name h
    | append_singleton ws w ih =>
      have hw := ih.argument w
      simpa using hw
  induction redirections using List.reverseRecOn with
  | nil => simpa [SimpleCommand.tokens, SimpleCommand.argv] using words
  | append_singleton rs r ih =>
    have hr := ih.redirection r.kind r.target
    simpa [SimpleCommand.tokens, SimpleCommand.argv, Redirection.tokens] using hr

end Grammar

theorem operand_and_row_of_shaped {c : Command} (hs : c.Shaped) (hf : c.Foreground)
    (hn : ∀ body ∈ c.leaves, body.name ≠ "") (op : Connective) :
    (op.strength < c.strength → Operand op c.tokens c) ∧
      (op.strength ≤ c.strength → Row op c.tokens c) := by
  induction c generalizing op with
  | simple body background =>
    obtain rfl : background = false := hf
    have hleaf : Leaf body.tokens (.simple body false) :=
      ⟨body, simple_tokens (hn body (by simp [Command.leaves])), rfl⟩
    exact ⟨fun _ => hleaf.operand op, fun _ => (hleaf.operand op).row⟩
  | node op' left right background ihl ihr =>
    obtain ⟨rfl, hfl, hfr⟩ := hf
    obtain ⟨⟨hl, hr⟩, hsl, hsr⟩ := hs
    have hnl : ∀ body ∈ left.leaves, body.name ≠ "" :=
      fun body hb => hn body (List.mem_append_left _ hb)
    have hnr : ∀ body ∈ right.leaves, body.name ≠ "" :=
      fun body hb => hn body (List.mem_append_right _ hb)
    have hleft := (ihl hsl hfl hnl op').2 hl
    have hright := (ihr hsr hfr hnr op').1 hr
    have hrow : Row op' (left.tokens ++ .symbol (.connective op') :: right.tokens)
        (left.join op' right) := by
      rw [row_eq_chain] at hleft ⊢
      exact hleft.more hright
    refine ⟨fun hlt => hrow.operand_of_lt hlt, fun hle => ?_⟩
    rcases Nat.lt_or_eq_of_le hle with hlt | heq
    · exact (hrow.operand_of_lt hlt).row
    · obtain rfl : op = op' := by
        cases op <;> cases op' <;> simp_all [Connective.strength, Command.strength]
      exact hrow

/-- **Trees of the parser's shape are derived** from their own tokens. -/
theorem sequence_of_shaped {c : Command} (hs : c.Shaped) (hf : c.Foreground)
    (hn : ∀ body ∈ c.leaves, body.name ≠ "") : Sequence c.tokens c :=
  (operand_and_row_of_shaped hs hf hn .sequence).2 (Nat.zero_le _)

/-! ## From derivations to trees -/

/-- The tree has the parser's shape, no background mark, and a root of at least that strength. -/
structure Fits (strength : Nat) (c : Command) : Prop where
  shaped : c.Shaped
  foreground : c.Foreground
  le : strength ≤ c.strength

namespace Grammar

theorem Leaf.fits {ts : List Token} {t : Command} (h : Leaf ts t) : Fits 4 t := by
  obtain ⟨c, -, rfl⟩ := h
  exact ⟨trivial, rfl, Nat.le_refl _⟩

theorem Chain.fits (op : Connective) {P : List Token → Command → Prop}
    (hP : ∀ {ts c}, P ts c → Fits (op.strength + 1) c) {ts : List Token} {c : Command}
    (h : Chain op P ts c) : Fits op.strength c := by
  induction h with
  | operand h => exact ⟨(hP h).shaped, (hP h).foreground, Nat.le_of_succ_le (hP h).le⟩
  | more _ h ih =>
    exact ⟨⟨⟨ih.le, (hP h).le⟩, ih.shaped, (hP h).shaped⟩, ⟨rfl, ih.foreground, (hP h).foreground⟩,
      Nat.le_refl _⟩

theorem Pipeline.fits {ts : List Token} {c : Command} (h : Pipeline ts c) : Fits 3 c :=
  Chain.fits .pipeline Leaf.fits h

theorem Conjunction.fits {ts : List Token} {c : Command} (h : Conjunction ts c) : Fits 2 c :=
  Chain.fits .and Pipeline.fits h

theorem Disjunction.fits {ts : List Token} {c : Command} (h : Disjunction ts c) : Fits 1 c :=
  Chain.fits .or Conjunction.fits h

/-- **Derived trees have the parser's shape** and no background mark. -/
theorem Sequence.fits {ts : List Token} {c : Command} (h : Sequence ts c) : Fits 0 c :=
  Chain.fits .sequence Disjunction.fits h

theorem Simple.name_ne_empty {ts : List Token} {c : SimpleCommand} (h : Simple ts c) :
    c.name ≠ "" := by
  induction h with
  | name hw => exact hw
  | argument _ _ ih => exact ih
  | redirection _ _ _ ih => exact ih

theorem Leaf.named {ts : List Token} {t : Command} (h : Leaf ts t) :
    ∀ body ∈ t.leaves, body.name ≠ "" := by
  obtain ⟨c, hc, rfl⟩ := h
  intro body hb
  obtain rfl : body = c := by simpa [Command.leaves] using hb
  exact hc.name_ne_empty

theorem Chain.named {op : Connective} {P : List Token → Command → Prop}
    (hP : ∀ {ts c}, P ts c → ∀ body ∈ c.leaves, body.name ≠ "") {ts : List Token} {c : Command}
    (h : Chain op P ts c) : ∀ body ∈ c.leaves, body.name ≠ "" := by
  induction h with
  | operand h => exact hP h
  | more _ h ih =>
    intro body hb
    exact (List.mem_append.mp hb).elim (ih body) (hP h body)

theorem Sequence.named {ts : List Token} {c : Command} (h : Sequence ts c) :
    ∀ body ∈ c.leaves, body.name ≠ "" :=
  Chain.named (Chain.named (Chain.named (Chain.named Leaf.named))) h

theorem Simple.perm_tokens {ts : List Token} {c : SimpleCommand} (h : Simple ts c) :
    ts.Perm c.tokens := by
  induction h with
  | name => exact .refl _
  | @argument ts c w _ ih =>
    have hmove : (c.tokens ++ [Token.word w]).Perm
        ({ c with arguments := c.arguments ++ [w] } : SimpleCommand).tokens := by
      simp only [SimpleCommand.tokens, SimpleCommand.argv, List.map_cons, List.map_append,
        List.map_nil, List.cons_append, List.append_assoc]
      exact ((List.perm_append_comm).append_left _).cons _
    exact (ih.append_right _).trans hmove
  | @redirection ts c kind w _ ih =>
    have hmove : c.tokens ++ [.symbol (.redirect kind), .word w] =
        ({ c with redirections := c.redirections ++ [⟨kind, w⟩] } : SimpleCommand).tokens := by
      simp [SimpleCommand.tokens, SimpleCommand.argv, Redirection.tokens]
    rw [← hmove]
    exact ih.append_right _

theorem Leaf.perm_tokens {ts : List Token} {t : Command} (h : Leaf ts t) : ts.Perm t.tokens := by
  obtain ⟨c, hc, rfl⟩ := h
  exact hc.perm_tokens

theorem Chain.perm_tokens {op : Connective} {P : List Token → Command → Prop}
    (hP : ∀ {ts c}, P ts c → ts.Perm c.tokens) {ts : List Token} {c : Command}
    (h : Chain op P ts c) : ts.Perm c.tokens := by
  induction h with
  | operand h => exact hP h
  | more _ h ih => exact ih.append ((hP h).cons _)

theorem Sequence.perm_tokens {ts : List Token} {c : Command} (h : Sequence ts c) :
    ts.Perm c.tokens :=
  Chain.perm_tokens (Chain.perm_tokens (Chain.perm_tokens (Chain.perm_tokens Leaf.perm_tokens))) h

/-- The background mark of a line, as tokens. -/
def marks (background : Bool) : List Token :=
  if background then [.symbol .background] else []

/-- **A line** is a sequence, and the mark of its root after it. -/
theorem line_iff {ts : List Token} {c : Command} : Line ts c ↔
    ∃ us, ts = us ++ marks c.isBackground ∧ Sequence us (c.setBackground false) := by
  constructor
  · intro h
    cases h with
    | foreground h =>
      have hb := h.fits.foreground.isBackground_eq
      exact ⟨ts, by simp [marks, hb], by rwa [Command.setBackground_eq_self hb]⟩
    | @background us root h =>
      have hb := h.fits.foreground.isBackground_eq
      refine ⟨us, by simp [marks], ?_⟩
      rwa [Command.setBackground_setBackground, Command.setBackground_eq_self hb]
  · rintro ⟨us, rfl, h⟩
    cases hb : c.isBackground with
    | false =>
      rw [Command.setBackground_eq_self hb] at h
      simpa [marks] using Line.foreground h
    | true =>
      have hline := Line.background h
      rwa [Command.setBackground_setBackground, Command.setBackground_eq_self hb] at hline

/-- **A line has the tokens of its tree**, up to the order of arguments and redirections. -/
theorem Line.perm_tokens {ts : List Token} {c : Command} (h : Line ts c) :
    ts.Perm (c.tokens ++ marks c.isBackground) := by
  obtain ⟨us, rfl, hroot⟩ := line_iff.mp h
  simpa using hroot.perm_tokens.append_right (marks c.isBackground)

/-- The tree of a line has the parser's shape, and at most its root is marked. -/
theorem Line.shaped {ts : List Token} {c : Command} (h : Line ts c) :
    c.Shaped ∧ (c.setBackground false).Foreground := by
  obtain ⟨us, -, hroot⟩ := line_iff.mp h
  exact ⟨Command.shaped_setBackground.mp hroot.fits.shaped, hroot.fits.foreground⟩

end Grammar

/-! ## The trees of lines -/

/-- **A tree that a line can have**: it has the parser's shape, no name is empty, and no node but
the root is marked. Its other words may be any. -/
@[mk_iff]
structure Command.Writable (c : Command) : Prop where
  shaped : c.Shaped
  named : ∀ body ∈ c.leaves, body.name ≠ ""
  foreground : (c.setBackground false).Foreground

instance : DecidablePred Command.Writable := fun c => decidable_of_iff _ (c.writable_iff).symm

/-- The tree of a line is one that a line can have. -/
theorem Grammar.Line.writable {ts : List Token} {c : Command} (h : Line ts c) : c.Writable := by
  obtain ⟨us, -, hroot⟩ := line_iff.mp h
  exact ⟨h.shaped.1, by simpa using hroot.named, h.shaped.2⟩

/-- A tree of this kind is derived from its own tokens. -/
theorem Command.Writable.line {c : Command} (h : c.Writable) :
    Line (c.tokens ++ marks c.isBackground) c := by
  have hroot : Sequence (c.setBackground false).tokens (c.setBackground false) :=
    sequence_of_shaped (shaped_setBackground.mpr h.shaped) h.foreground (by simpa using h.named)
  rw [tokens_setBackground] at hroot
  exact line_iff.mpr ⟨c.tokens, rfl, hroot⟩

end LineShell
