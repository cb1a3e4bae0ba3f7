import LineShell.Proofs.Grammar
import Mathlib.Data.Option.Defs

/-!
# Two readings in step

Two lists of tokens that are alike in some way are read in step if every rule does the same on both:
both readings fail for one cause, or both succeed, and what they leave is alike again. It is enough
to show this for simple commands, and that the lists agree on the symbols at their front. The rows
of the grammar and the whole line follow, whatever the way in which the lists are alike.

* `Agree R S`: two results that are the same up to `R` on what is left and `S` on what is read.
* `InStep R S`: what has to be shown of `R` and `S`.

Results:
* `InStep.chain`: a row of operands is read in step if its operands are.
* **`InStep.parseTokens`**: lists of tokens that are read in step parse to the same, up to `S`.
-/

namespace LineShell

/-! ## Results that agree -/

/-- **Results that agree**: failures with one cause, or successes with related values; what is left
is related either way. -/
inductive Agree {α β : Type} (R : List Token → List Token → Prop) (S : α → β → Prop) :
    Except Failure (α × List Token) → Except Failure (β × List Token) → Prop where
  | ok {a : α} {b : β} {ts us : List Token} :
      S a b → R ts us → Agree R S (.ok (a, ts)) (.ok (b, us))
  | error (e : ParseError) {ts us : List Token} :
      R ts us → Agree R S (.error ⟨e, ts⟩) (.error ⟨e, us⟩)

section Agreement

variable {α β α' β' : Type} {R : List Token → List Token → Prop} {S : α → β → Prop}

theorem Agree.map {S' : α' → β' → Prop} {f : α → α'} {g : β → β'}
    {x : Except Failure (α × List Token)} {y : Except Failure (β × List Token)}
    (h : Agree R S x y) (hfg : ∀ {a b}, S a b → S' (f a) (g b)) :
    Agree R S' (x.map (Prod.map f id)) (y.map (Prod.map g id)) := by
  cases h with
  | ok hS hR => exact .ok (hfg hS) hR
  | error e hR => exact .error e hR

/-- A result agrees with itself. -/
theorem Agree.refl {S : α → α → Prop} (hR : ∀ ts, R ts ts) (hS : ∀ a, S a a)
    (x : Except Failure (α × List Token)) : Agree R S x x := by
  cases x with
  | ok p => exact .ok (hS p.1) (hR p.2)
  | error f => exact .error f.error (hR f.rest)

theorem Agree.of_ok {a : α} {ts : List Token} {y : Except Failure (β × List Token)}
    (h : Agree R S (.ok (a, ts)) y) : ∃ b us, y = .ok (b, us) ∧ S a b ∧ R ts us := by
  cases h with
  | ok hS hR => exact ⟨_, _, rfl, hS, hR⟩

theorem Agree.of_error {f : Failure} {y : Except Failure (β × List Token)}
    (h : Agree R S (.error f) y) : ∃ us, y = .error ⟨f.error, us⟩ ∧ R f.rest us := by
  cases h with
  | error e hR => exact ⟨_, rfl, hR⟩

end Agreement

/-! ## Lists that are read in step -/

/-- **What makes readings go in step**, for lists of tokens that are related by `R` and trees that
are related by `S`. -/
structure InStep (R : List Token → List Token → Prop) (S : Command → Command → Prop) : Prop where
  /-- Simple commands are read in step. -/
  simple : ∀ {ts us}, R ts us → Agree R S (simpleRule.read ts) (simpleRule.read us)
  /-- The lists agree on the symbol at their front. -/
  eat : ∀ mark {ts us}, R ts us → Option.Rel R (LineShell.eat mark ts) (LineShell.eat mark us)
  /-- The lists agree on where the input ends. -/
  atEnd : ∀ {ts us}, R ts us → LineShell.atEnd ts = LineShell.atEnd us
  join : ∀ op {a b c d}, S a b → S c d → S (a.join op c) (b.join op d)
  setBackground : ∀ {a b}, S a b → S (a.setBackground true) (b.setBackground true)

theorem readChain_error {op : Connective} {r : Rule Command} {us : List Token} {f : Failure}
    (h : r.read us = .error f) (left : Command) :
    r.readChain op left (.symbol (.connective op) :: us) = .error f := by
  rw [Rule.readChain]
  split
  · next he => simp [eat] at he
  · next vs he =>
    obtain rfl : us = vs := by simpa [eat] using he
    split
    · next g hr => rw [← hr, h]
    · next hr => rw [h] at hr; exact absurd hr (by simp)

namespace InStep

variable {R : List Token → List Token → Prop} {S : Command → Command → Prop}
  {r : Rule Command} {op : Connective}

/-- The loop over more operands goes in step, operand by operand. -/
theorem readChain (h : InStep R S)
    (hr : ∀ {ts us}, R ts us → Agree R S (r.read ts) (r.read us)) {left left' : Command}
    {ts us : List Token} (hleft : S left left') (hts : R ts us) :
    Agree R S (r.readChain op left ts) (r.readChain op left' us) := by
  fun_induction Rule.readChain op r left ts generalizing left' us with
  | case1 left ts he =>
    have heat := h.eat (.connective op) hts
    rw [he] at heat
    generalize hus : LineShell.eat (.connective op) us = eaten at heat
    cases heat with
    | none =>
      rw [readChain_of_stops (eat_eq_none_iff.mp hus)]
      exact .ok hleft hts
  | case2 left ts vs he f hread =>
    have heat := h.eat (.connective op) hts
    rw [he] at heat
    generalize hus : LineShell.eat (.connective op) us = eaten at heat
    cases heat with
    | some hvs =>
      obtain ⟨rest, hread', hrest⟩ := Agree.of_error (hread ▸ hr hvs)
      rw [eat_eq_some_iff.mp hus, readChain_error hread']
      exact .error f.error hrest
  | case3 left ts vs he right rest hread ih =>
    have heat := h.eat (.connective op) hts
    rw [he] at heat
    generalize hus : LineShell.eat (.connective op) us = eaten at heat
    cases heat with
    | some hvs =>
      obtain ⟨right', rest', hread', hright, hrest⟩ := Agree.of_ok (hread ▸ hr hvs)
      rw [eat_eq_some_iff.mp hus, readChain_more hread']
      exact ih (h.join op hleft hright) hrest

/-- **Rows of operands** are read in step if the operands are. -/
theorem chain (h : InStep R S)
    (hr : ∀ {ts us}, R ts us → Agree R S (r.read ts) (r.read us)) {ts us : List Token}
    (hts : R ts us) : Agree R S ((r.chain op).read ts) ((r.chain op).read us) := by
  simp only [Rule.chain]
  cases hread : r.read ts with
  | error f =>
    obtain ⟨rest, hread', hrest⟩ := Agree.of_error (hread ▸ hr hts)
    rw [hread']
    exact .error f.error hrest
  | ok p =>
    obtain ⟨left, rest⟩ := p
    obtain ⟨left', rest', hread', hleft, hrest⟩ := Agree.of_ok (hread ▸ hr hts)
    rw [hread']
    exact h.readChain hr hleft hrest

theorem sequenceRule (h : InStep R S) {ts us : List Token} (hts : R ts us) :
    Agree R S (sequenceRule.read ts) (sequenceRule.read us) :=
  h.chain (h.chain (h.chain (h.chain h.simple))) hts

theorem commandRule (h : InStep R S) {ts us : List Token} (hts : R ts us) :
    Agree R S (commandRule.read ts) (commandRule.read us) := by
  simp only [LineShell.commandRule]
  cases hread : LineShell.sequenceRule.read ts with
  | error f =>
    obtain ⟨rest, hread', hrest⟩ := Agree.of_error (hread ▸ h.sequenceRule hts)
    rw [hread']
    exact .error f.error hrest
  | ok p =>
    obtain ⟨c, rest⟩ := p
    obtain ⟨c', rest', hread', hc, hrest⟩ := Agree.of_ok (hread ▸ h.sequenceRule hts)
    rw [hread']
    dsimp only
    have heat := h.eat .background hrest
    generalize LineShell.eat .background rest = eaten at heat ⊢
    generalize LineShell.eat .background rest' = eaten' at heat ⊢
    cases heat with
    | none => exact .ok hc hrest
    | some hvs => exact .ok (h.setBackground hc) hvs

/-- **Lists that are read in step parse to the same**: to related trees, or to failures with one
cause, before tokens that are related. -/
theorem parseTokens (h : InStep R S) {ts us : List Token} (hts : R ts us) :
    (∃ c d, parseTokens ts = .ok c ∧ parseTokens us = .ok d ∧ S c d) ∨
      ∃ e vs ws, parseTokens ts = .error ⟨e, vs⟩ ∧ parseTokens us = .error ⟨e, ws⟩ ∧ R vs ws := by
  simp only [LineShell.parseTokens]
  cases hread : LineShell.commandRule.read ts with
  | error f =>
    obtain ⟨rest, hread', hrest⟩ := Agree.of_error (hread ▸ h.commandRule hts)
    rw [hread']
    exact .inr ⟨f.error, f.rest, rest, rfl, rfl, hrest⟩
  | ok p =>
    obtain ⟨c, rest⟩ := p
    obtain ⟨d, rest', hread', hc, hrest⟩ := Agree.of_ok (hread ▸ h.commandRule hts)
    rw [hread']
    simp only [h.atEnd hrest]
    cases LineShell.atEnd rest' with
    | true => exact .inl ⟨c, d, rfl, rfl, hc⟩
    | false => exact .inr ⟨_, rest, rest', rfl, rfl, hrest⟩

end InStep

end LineShell
