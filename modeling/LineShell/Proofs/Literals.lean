import LineShell.Text.Literal
import Mathlib.Data.List.Basic
import Mathlib.Data.List.Forall2

/-!
# Literals end by themselves

A text holds a literal and goes on: where does the literal end, and what is its text? Both are
settled by the literal alone (`SelfDelimiting`). The reason is the law of escapes (`Escape`): no
escape starts like another one, and none starts with the quote that ends the literal.

The law is stated for itself, as a relation. A character with a mark of its own is written as a
backslash and that mark, one without a shape as its number in hexadecimal digits (`Hexadecimal`),
and any other one as it is.

Results:
* `hexadecimal_toDigits`: the digits that are written, and that they have no leading zero.
* `Escape.unique`: an escape at the front of a text is the only one there.
* `SelfDelimiting.of_unique_start`: forms none of which starts another one.
* `SelfDelimiting.row`: forms in a row, with a stop that none of them starts like.
* **`isLiteral_literal`**, **`selfDelimiting_literal`**: what is written is a literal, and it ends
  by itself.
-/

namespace LineShell

/-! ## Forms that end by themselves -/

section Forms

variable {α : Type} {form : α → List Char}

/-- **Forms that end by themselves**: two texts that start with such forms and are equal start with
the form of the same value, and go on alike. -/
def SelfDelimiting (form : α → List Char) : Prop :=
  ∀ ⦃a b : α⦄ ⦃xs ys : List Char⦄, form a ++ xs = form b ++ ys → a = b ∧ xs = ys

/-- Forms end by themselves if none of them starts another one. -/
theorem SelfDelimiting.of_unique_start (h : ∀ a b, form a <+: form b → a = b) :
    SelfDelimiting form := by
  intro a b xs ys heq
  have hvalue : a = b := by
    have ha : form a <+: form a ++ xs := List.prefix_append _ _
    have hb : form b <+: form a ++ xs := heq ▸ List.prefix_append _ _
    rcases List.prefix_or_prefix_of_prefix ha hb with hab | hba
    · exact h a b hab
    · exact (h b a hba).symm
  subst hvalue
  exact ⟨rfl, List.append_cancel_left heq⟩

/-- A fixed text before the form. -/
theorem SelfDelimiting.after (h : SelfDelimiting form) (start : List Char) :
    SelfDelimiting fun a => start ++ form a := by
  intro a b xs ys heq
  rw [List.append_assoc, List.append_assoc] at heq
  exact h (List.append_cancel_left heq)

/-- A fixed text between the form and what follows. -/
theorem SelfDelimiting.cut (h : SelfDelimiting form) {a b : α} {between xs ys : List Char}
    (heq : form a ++ (between ++ xs) = form b ++ (between ++ ys)) : a = b ∧ xs = ys := by
  obtain ⟨hvalue, hrest⟩ := h heq
  exact ⟨hvalue, List.append_cancel_left hrest⟩

/-- **Forms in a row**, up to a stop that no form starts like. -/
theorem SelfDelimiting.row (h : SelfDelimiting form) {stop : List Char}
    (hstop : ∀ a xs ys, form a ++ xs ≠ stop ++ ys) :
    SelfDelimiting fun as : List α => as.flatMap form ++ stop := by
  intro as
  induction as with
  | nil =>
    intro bs xs ys heq
    cases bs with
    | nil => exact ⟨rfl, List.append_cancel_left heq⟩
    | cons b bs =>
      simp only [List.flatMap_nil, List.flatMap_cons, List.nil_append, List.append_assoc] at heq
      exact absurd heq.symm (hstop b _ xs)
  | cons a as ih =>
    intro bs xs ys heq
    cases bs with
    | nil =>
      simp only [List.flatMap_nil, List.flatMap_cons, List.nil_append, List.append_assoc] at heq
      exact absurd heq (hstop a _ ys)
    | cons b bs =>
      simp only [List.flatMap_cons, List.append_assoc] at heq
      obtain ⟨rfl, hrest⟩ := h heq
      obtain ⟨rfl, hxs⟩ := ih (by simpa only [List.append_assoc] using hrest)
      exact ⟨rfl, hxs⟩

end Forms

/-! ## Hexadecimal digits -/

/-- The hexadecimal digits, each at the place of its value. -/
def hexDigits : List Char :=
  ['0', '1', '2', '3', '4', '5', '6', '7', '8', '9', 'a', 'b', 'c', 'd', 'e', 'f']

/-- The number that a row of hexadecimal digits stands for. -/
def hexValue (digits : List Char) : Nat :=
  digits.foldl (fun n d => 16 * n + hexDigits.idxOf d) 0

/-- The digits stand for the number, and no zero leads. -/
structure Hexadecimal (digits : List Char) (n : Nat) : Prop where
  mem_hexDigits : ∀ d ∈ digits, d ∈ hexDigits
  value_eq : hexValue digits = n
  head_ne_zero : digits.head? = some '0' → digits = ['0']

theorem digitChar_of_lt {d : Nat} (h : d < 16) :
    d.digitChar ∈ hexDigits ∧ hexDigits.idxOf d.digitChar = d := by
  revert d
  decide

theorem hexValue_concat (digits : List Char) (d : Char) :
    hexValue (digits ++ [d]) = 16 * hexValue digits + hexDigits.idxOf d := by
  rw [hexValue, List.foldl_append]
  rfl

/-- **A number in hexadecimal digits.** -/
theorem hexadecimal_toDigits (n : Nat) : Hexadecimal (Nat.toDigits 16 n) n := by
  induction n using Nat.strongRecOn with
  | ind n ih =>
    rw [Nat.toDigits_eq_if (by decide)]
    split
    · next hsmall =>
      obtain ⟨hmem, hidx⟩ := digitChar_of_lt hsmall
      refine ⟨by simpa using hmem, ?_, fun h => by simpa using h⟩
      simpa [hexValue] using hidx
    · next hlarge =>
      -- the digits of the quotient come first, so it is they that have no leading zero
      have hfirst := ih (n / 16) (by omega)
      obtain ⟨hmem, hidx⟩ := digitChar_of_lt (Nat.mod_lt n (by decide : 0 < 16))
      refine ⟨?_, ?_, fun hzero => ?_⟩
      · intro d hd
        rcases List.mem_append.mp hd with hd | hd
        · exact hfirst.mem_hexDigits d hd
        · exact List.mem_singleton.mp hd ▸ hmem
      · rw [hexValue_concat, hfirst.value_eq, hidx]
        omega
      · rw [List.head?_append_of_ne_nil _ Nat.toDigits_ne_nil] at hzero
        have hvalue := hfirst.value_eq
        rw [hfirst.head_ne_zero hzero, show hexValue ['0'] = 0 by decide] at hvalue
        omega

/-! ## Escapes -/

/-- The characters that are written with a mark after a backslash, and the marks. -/
def escapeMarks : List (Char × Char) :=
  [('"', '"'), ('\\', '\\'), ('\t', 't'), ('\n', 'n'), ('\r', 'r'), ('\x00', '0')]

/-- **The law of escapes**: how a character is written in a literal. -/
inductive Escape (c : Char) : List Char → Prop where
  | mark {m : Char} : (c, m) ∈ escapeMarks → Escape c ['\\', m]
  | code {digits : List Char} : c ∉ escapeMarks.map Prod.fst → concealed.contains c = true →
      Hexadecimal digits c.toNat → Escape c ('\\' :: 'u' :: '\x7b' :: (digits ++ ['\x7d']))
  | plain : c ∉ escapeMarks.map Prod.fst → concealed.contains c = false → Escape c [c]

theorem escapeChar_escape (c : Char) : Escape c (escapeChar c) := by
  by_cases hc : c ∈ escapeMarks.map Prod.fst
  · have hmarks : ∀ p ∈ escapeMarks, escapeChar p.1 = ['\\', p.2] := by decide
    obtain ⟨⟨d, m⟩, hmem, rfl⟩ := List.mem_map.mp hc
    rw [hmarks _ hmem]
    exact .mark hmem
  · have hother : escapeChar c = if concealed.contains c then codeEscape c else [c] := by
      simp only [escapeMarks, List.map_cons, List.map_nil, List.mem_cons, List.not_mem_nil,
        or_false, not_or] at hc
      simp only [escapeChar, hc, if_false]
    rw [hother]
    split
    · next hconcealed => exact .code hc hconcealed (hexadecimal_toDigits c.toNat)
    · next hshown => exact .plain hc (by simpa using hshown)

/-- No two characters share a mark. -/
theorem eq_of_mem_escapeMarks {c d m : Char} (hc : (c, m) ∈ escapeMarks)
    (hd : (d, m) ∈ escapeMarks) : c = d := by
  have hunique : ∀ p ∈ escapeMarks, ∀ q ∈ escapeMarks, p.2 = q.2 → p.1 = q.1 := by decide
  exact hunique _ hc _ hd rfl

theorem Hexadecimal.eq_of_append {digits digits' : List Char} {m n : Nat}
    (h : Hexadecimal digits m) (h' : Hexadecimal digits' n) (xs ys : List Char)
    (heq : digits ++ '\x7d' :: xs = digits' ++ '\x7d' :: ys) : m = n ∧ xs = ys := by
  -- the brace is no digit, so the digits are what comes before it
  have hfront : ∀ {ds : List Char} {k : Nat}, Hexadecimal ds k → ∀ zs,
      (ds ++ '\x7d' :: zs).takeWhile (· ∈ hexDigits) = ds := by
    intro ds k hds zs
    rw [List.takeWhile_append_of_pos (by simpa using hds.mem_hexDigits),
      List.takeWhile_cons_of_neg (by decide), List.append_nil]
  have hdigits : digits = digits' := by
    rw [← hfront h xs, heq, hfront h' ys]
  subst hdigits
  exact ⟨h.value_eq.symm.trans h'.value_eq, (List.cons.inj (List.append_cancel_left heq)).2⟩

/-- **An escape at the front of a text is the only one there.** -/
theorem Escape.unique {c d : Char} {written written' xs ys : List Char} (h : Escape c written)
    (h' : Escape d written') (heq : written ++ xs = written' ++ ys) : c = d ∧ xs = ys := by
  have hslash : '\\' ∈ escapeMarks.map Prod.fst := by decide
  have hcode : ∀ c, (c, 'u') ∉ escapeMarks := by simp [escapeMarks]
  cases h with
  | mark hc =>
    cases h' with
    | mark hd =>
      obtain ⟨rfl, rfl⟩ : _ = _ ∧ xs = ys := by simpa using heq
      exact ⟨eq_of_mem_escapeMarks hc hd, rfl⟩
    | code =>
      obtain ⟨rfl, -⟩ : _ = 'u' ∧ _ := by simpa using heq
      exact absurd hc (hcode c)
    | plain hd =>
      obtain ⟨rfl, -⟩ : '\\' = d ∧ _ := by simpa using heq
      exact absurd hslash hd
  | code hc _ hdigits =>
    cases h' with
    | mark hd =>
      obtain ⟨rfl, -⟩ : 'u' = _ ∧ _ := by simpa using heq
      exact absurd hd (hcode d)
    | code _ _ hdigits' =>
      obtain ⟨hnumber, hxs⟩ := hdigits.eq_of_append hdigits' xs ys (by simpa using heq)
      exact ⟨Char.toNat_inj.mp hnumber, hxs⟩
    | plain hd =>
      obtain ⟨rfl, -⟩ : '\\' = d ∧ _ := by simpa using heq
      exact absurd hslash hd
  | plain hc =>
    cases h' with
    | mark =>
      obtain ⟨rfl, -⟩ : c = '\\' ∧ _ := by simpa using heq
      exact absurd hslash hc
    | code =>
      obtain ⟨rfl, -⟩ : c = '\\' ∧ _ := by simpa using heq
      exact absurd hslash hc
    | plain => simpa using heq

/-- No escape starts with the quote that ends a literal. -/
theorem Escape.head_ne_quote {c : Char} {written : List Char} (h : Escape c written)
    (xs ys : List Char) : written ++ xs ≠ '"' :: ys := by
  intro heq
  cases h with
  | mark => simp at heq
  | code => simp at heq
  | plain hc =>
    obtain ⟨rfl, -⟩ : c = '"' ∧ xs = ys := by simpa using heq
    exact absurd (by decide) hc

/-! ## Literals -/

/-- **The law of literals**: quotes around the escapes of the characters, one after the other. -/
def IsLiteral (w : String) (text : List Char) : Prop :=
  ∃ escapes, List.Forall₂ Escape w.toList escapes ∧ text = '"' :: (escapes.flatten ++ ['"'])

theorem isLiteral_literal (w : String) : IsLiteral w (literal w).toList := by
  refine ⟨w.toList.map escapeChar, ?_, ?_⟩
  · rw [List.forall₂_map_right_iff]
    exact List.forall₂_same.mpr fun c _ => escapeChar_escape c
  · rw [literal, String.toList_ofList, List.flatMap_def]

/-- **Literals end by themselves.** -/
theorem selfDelimiting_literal : SelfDelimiting fun w => (literal w).toList := by
  have hescapes : SelfDelimiting escapeChar := fun c d _ _ heq =>
    (escapeChar_escape c).unique (escapeChar_escape d) heq
  have hstop : ∀ c xs ys, escapeChar c ++ xs ≠ ['"'] ++ ys := fun c =>
    (escapeChar_escape c).head_ne_quote
  have hchars := (hescapes.row hstop).after ['"']
  intro w v xs ys heq
  simp only [literal, String.toList_ofList] at heq
  obtain ⟨hw, hxs⟩ := hchars heq
  exact ⟨String.toList_inj.mp hw, hxs⟩

end LineShell
