import LineShell.Proofs.Grammar

/-!
# Reading a text step by step

The tokens of a text can be taken one at a time (`nextToken`) or all at once (`tokenize`). A number
of steps takes away as many lexemes and gives their meanings (`nextTokens_eq`,
`lexemes_nextTokens`); when no lexeme is left, each further step gives the end of the input and
changes nothing. So it does not matter after how many steps the rest of the text is read as a whole.

Reading ends because of what one step does (`nextToken_cases`): it is at the end of the text, or it
takes a character that is no skipped blank. This holds also of a token without a value, such as that
of two quotes with nothing between them, or of a backslash at the end of the text.

Results:
* `nextToken_cases`: what one step does to the text.
* `nextTokens_append_tokens`: steps, and then the rest at once.
* **`tokenize_stepwise`**: steps and whole texts agree, the end of the input comes once and last,
  every other step makes progress, and so there are at most as many tokens as characters and one
  more.
-/

namespace LineShell

/-! ## One step -/

/-- **What one step does.** It finds nothing but blanks, which it skips, and gives the end of the
input; or it gives another token and takes at least one character after the blanks that it skips. -/
theorem nextToken_cases (cs : List Char) :
    (nextToken cs = (.endOfInput, []) ∧ ∀ c ∈ cs, isBlank c = true) ∨
      ((nextToken cs).1 ≠ .endOfInput ∧
        ∃ used, used ≠ [] ∧ cs = cs.takeWhile isBlank ++ used ++ (nextToken cs).2) := by
  unfold nextToken
  cases h : Lexeme.next? cs with
  | none => exact .inl ⟨rfl, Lexeme.next?_eq_none_iff.mp h⟩
  | some p =>
    obtain ⟨l, rest⟩ := p
    have htoken : l.token ≠ .endOfInput := by cases l <;> simp [Lexeme.token]
    exact .inr ⟨htoken, l.text, List.length_pos_iff.mp (Lexeme.length_text_pos_of_next? h),
      Lexeme.next?_text h⟩

theorem nextToken_suffix (cs : List Char) : (nextToken cs).2 <:+ cs := by
  rcases nextToken_cases cs with ⟨hend, -⟩ | ⟨-, used, -, htext⟩
  · rw [hend]
    exact List.nil_suffix
  · exact ⟨_, htext.symm⟩

/-! ## Many steps -/

/-- What is left after some steps is the end of the text. -/
theorem nextTokens_suffix (k : Nat) (cs : List Char) : (nextTokens k cs).2 <:+ cs := by
  induction k generalizing cs with
  | zero => exact List.suffix_refl cs
  | succ k ih => exact (ih _).trans (nextToken_suffix cs)

/-- **Each step takes one lexeme**, as long as there is one. -/
theorem lexemes_nextTokens (k : Nat) (cs : List Char) :
    lexemes (nextTokens k cs).2 = (lexemes cs).drop k := by
  induction k generalizing cs with
  | zero => rfl
  | succ k ih =>
    rw [nextTokens, ih, nextToken]
    cases h : Lexeme.next? cs with
    | none =>
      rw [lexemes_of_next?_eq_none h, lexemes_of_next?_eq_none rfl, List.drop_nil, List.drop_nil]
    | some p => rw [lexemes_of_next? h, List.drop_succ_cons]

/-- **The steps give the meanings of the lexemes**, and then the end of the input for ever. -/
theorem nextTokens_eq (k : Nat) (cs : List Char) :
    (nextTokens k cs).1 = ((lexemes cs).map Lexeme.token).take k ++
      List.replicate (k - (lexemes cs).length) .endOfInput := by
  induction k generalizing cs with
  | zero => rw [nextTokens, List.take_zero, Nat.zero_sub, List.replicate_zero, List.append_nil]
  | succ k ih =>
    rw [nextTokens, ih, nextToken]
    cases h : Lexeme.next? cs with
    | none =>
      rw [lexemes_of_next?_eq_none h, lexemes_of_next?_eq_none rfl]
      simp [List.replicate_succ]
    | some p =>
      rw [lexemes_of_next? h]
      simp

theorem length_tokens (cs : List Char) : (tokens cs).length = (lexemes cs).length + 1 := by
  rw [tokens, List.length_append, List.length_map, List.length_singleton]

/-- **Steps, and then the rest at once.** Before the last token this is the text read at once; after
it there is one end of the input more for each step. -/
theorem nextTokens_append_tokens (k : Nat) (cs : List Char) :
    (nextTokens k cs).1 ++ tokens (nextTokens k cs).2 =
      if k < (tokens cs).length then tokens cs
      else tokens cs ++ List.replicate (k + 1 - (tokens cs).length) .endOfInput := by
  rw [nextTokens_eq, tokens, lexemes_nextTokens, length_tokens, tokens]
  split
  · next hk =>
    have hnone : k - (lexemes cs).length = 0 := by omega
    rw [hnone, List.replicate_zero, List.append_nil, ← List.append_assoc, List.map_drop,
      List.take_append_drop]
  · next hk =>
    have hall : (lexemes cs).length ≤ k := by omega
    rw [List.take_of_length_le (by rwa [List.length_map]), List.drop_eq_nil_of_le hall,
      List.map_nil, List.nil_append, List.append_assoc, List.append_assoc, Nat.add_sub_add_right,
      ← List.replicate_succ', List.replicate_succ, List.singleton_append]

/-- As many steps as there are tokens give them all. -/
theorem nextTokens_length_tokens (cs : List Char) :
    (nextTokens (tokens cs).length cs).1 = tokens cs := by
  rw [nextTokens_eq, length_tokens, tokens, List.take_of_length_le (by rw [List.length_map]; omega),
    Nat.add_sub_cancel_left]
  rfl

/-! ## The number of tokens -/

/-- **There are no more lexemes than characters**, as no lexeme is empty. -/
theorem length_lexemes_le (cs : List Char) : (lexemes cs).length ≤ cs.length := by
  fun_induction lexemes cs with
  | case1 => exact Nat.zero_le _
  | case2 cs l rest h ih =>
    have := Lexeme.next?_length_lt h
    rw [List.length_cons]
    omega

/-- **Reading step by step and reading at once agree**, and both come to an end. For every line

* some steps, and then what they have left read at once, give the tokens of the line, with one end
  of the input more for each step from the last token on; and as many steps as there are tokens give
  just these;
* the end of the input stands at the end of the tokens and nowhere else;
* what some steps have left is the end of the line. The next step finds only blanks there and leaves
  nothing, or gives a token that is not the end of the input and takes at least one character after
  the blanks;
* there are at most as many tokens as characters, and one more. -/
theorem tokenize_stepwise (line : String) :
    (∀ k, (nextTokens k line.toList).1 ++ tokens (nextTokens k line.toList).2 =
      if k < (tokenize line).length then tokenize line
      else tokenize line ++ List.replicate (k + 1 - (tokenize line).length) .endOfInput) ∧
    (nextTokens (tokenize line).length line.toList).1 = tokenize line ∧
    (∃ ts, tokenize line = ts ++ [.endOfInput] ∧ .endOfInput ∉ ts) ∧
    (∀ k left, (nextTokens k line.toList).2 = left → left <:+ line.toList ∧
      (nextToken left = (.endOfInput, []) ∧ (∀ c ∈ left, isBlank c = true) ∨
        (nextToken left).1 ≠ .endOfInput ∧
          ∃ used, used ≠ [] ∧ left = left.takeWhile isBlank ++ used ++ (nextToken left).2)) ∧
    (tokenize line).length ≤ line.length + 1 := by
  refine ⟨fun k => nextTokens_append_tokens k line.toList, nextTokens_length_tokens line.toList,
    ⟨_, rfl, endOfInput_notMem_map_token _⟩, ?_, ?_⟩
  · rintro k _ rfl
    exact ⟨nextTokens_suffix k line.toList, nextToken_cases _⟩
  · rw [tokenize, length_tokens, ← String.length_toList]
    exact Nat.succ_le_succ (length_lexemes_le line.toList)

/-- Two quotes, and a backslash at the end: both are words without a value, and both take
characters. -/
example : nextTokens 3 " '' \\".toList = ([.word "", .word "", .endOfInput], []) := by
  decide +kernel

end LineShell
