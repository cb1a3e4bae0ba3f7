import LineShell.Proofs.Interleaving
import LineShell.Proofs.Rendering

/-!
# No word has a meaning of its own

The parser has no reserved words. Of a word it sees only whether it is empty, so a list of tokens is
parsed like the one in which every word `w` is replaced by `f w` (`Token.mapWord`), for any `f` that
keeps the empty word and no other one empty. The tree of the second list is that of the first with
`f` applied to every name, argument and target (`Command.mapWords`), and nothing else changes, the
place and the cause of a failure included.

The two lists are read in step (`InStep`); only simple commands look at words.

Results:
* `readParts_mapWord`: parts are read alike, whatever `f` is.
* `renamed_inStep`: the parser goes in step over a list and its renamed form.
* **`verdict_map_mapWord`**: the tree is the renamed one, or the failure is the same.
-/

namespace LineShell

/-! ## Renaming -/

/-- The token with `f w` in place of its word `w`, if it is a word. -/
def Token.mapWord (f : String → String) : Token → Token
  | word w => word (f w)
  | symbol mark => symbol mark
  | endOfInput => endOfInput

/-- The part with `f w` in place of its word `w`. -/
def Part.mapWord (f : String → String) : Part → Part
  | argument value => argument (f value)
  | redirection r => redirection (r.mapTarget f)

/-- The list `us` is the list `ts` with its words replaced. -/
def Renamed (f : String → String) (ts us : List Token) : Prop :=
  us = ts.map (Token.mapWord f)

section Renaming

variable {f : String → String} {ts us : List Token}

theorem mapWord_eq_symbol_iff {t : Token} {mark : Symbol} :
    t.mapWord f = .symbol mark ↔ t = .symbol mark := by
  cases t <;> simp [Token.mapWord]

theorem exists_word_of_mapWord {t : Token} {w : String} (h : t.mapWord f = .word w) :
    ∃ v, t = .word v := by
  cases t with
  | word v => exact ⟨v, rfl⟩
  | symbol mark => simp [Token.mapWord] at h
  | endOfInput => simp [Token.mapWord] at h

/-- **Renamed parts make the renamed command.** -/
theorem ofParts_map_mapWord (f : String → String) (name : String) (ps : List Part) :
    SimpleCommand.ofParts (f name) (ps.map (Part.mapWord f)) =
      (SimpleCommand.ofParts name ps).mapWords f := by
  have harguments : (ps.map (Part.mapWord f)).filterMap Part.argument? =
      (ps.filterMap Part.argument?).map f := by
    rw [List.filterMap_map, List.map_filterMap]
    congr 1
    funext p
    cases p <;> rfl
  have hredirections : (ps.map (Part.mapWord f)).filterMap Part.redirection? =
      (ps.filterMap Part.redirection?).map (Redirection.mapTarget f) := by
    rw [List.filterMap_map, List.map_filterMap]
    congr 1
    funext p
    cases p <;> rfl
  simp only [SimpleCommand.ofParts, SimpleCommand.mapWords, harguments, hredirections]

theorem Command.mapWords_setBackground (f : String → String) (b : Bool) (c : Command) :
    (c.setBackground b).mapWords f = (c.mapWords f).setBackground b := by
  cases c <;> rfl

/-! ## The parser in step -/

/-- **Parts are read alike**, as no word is looked into. -/
theorem readParts_mapWord (f : String → String) (ts : List Token) :
    Agree (Renamed f) (fun ps qs => qs = ps.map (Part.mapWord f)) (readParts ts)
      (readParts (ts.map (Token.mapWord f))) := by
  fun_induction readParts ts with
  | case1 w ts ih =>
    rw [List.map_cons, Token.mapWord, readParts]
    exact ih.map fun hps => by rw [hps, List.map_cons, Part.mapWord]
  | case2 kind w ts ih =>
    rw [List.map_cons, List.map_cons, Token.mapWord, Token.mapWord, readParts]
    exact ih.map fun hps => by rw [hps, List.map_cons, Part.mapWord, Redirection.mapTarget]
  | case3 kind ts hfile =>
    have hfile' : ∀ w us, ts.map (Token.mapWord f) = .word w :: us → False := by
      intro w us hmap
      obtain ⟨t, rest, rfl, ht, -⟩ := List.map_eq_cons_iff.mp hmap
      obtain ⟨v, rfl⟩ := exists_word_of_mapWord ht
      exact hfile v rest rfl
    rw [List.map_cons, Token.mapWord, readParts.eq_3 kind _ hfile']
    exact .error _ rfl
  | case4 ts hword hfile hopen =>
    have hstops : Stops IsPart (ts.map (Token.mapWord f)) := by
      refine stops_isPart (fun w us hmap => ?_) (fun kind us hmap => ?_)
      · obtain ⟨s, rest, rfl, hs, -⟩ := List.map_eq_cons_iff.mp hmap
        obtain ⟨v, rfl⟩ := exists_word_of_mapWord hs
        exact hword v rest rfl
      · obtain ⟨s, rest, rfl, hs, -⟩ := List.map_eq_cons_iff.mp hmap
        obtain rfl := mapWord_eq_symbol_iff.mp hs
        exact hopen kind rest rfl
    rw [readParts_of_stops hstops]
    exact .ok rfl rfl

/-- **Simple commands are read alike** if the words that are empty stay so. -/
theorem readSimple_mapWord (hf : ∀ w, f w = "" ↔ w = "") (ts : List Token) :
    Agree (Renamed f) (fun c d => d = c.mapWords f) (readSimple ts)
      (readSimple (ts.map (Token.mapWord f))) := by
  cases ts with
  | nil => exact .error _ rfl
  | cons t ts =>
    cases t with
    | word name =>
      have hempty : (f name).isEmpty = name.isEmpty := by
        rw [Bool.eq_iff_iff, String.isEmpty_iff, String.isEmpty_iff, hf]
      rw [List.map_cons, Token.mapWord, readSimple, readSimple, hempty]
      split
      · exact .error _ rfl
      · refine (readParts_mapWord f ts).map fun hps => ?_
        rw [hps, ofParts_map_mapWord, Command.mapWords]
    | symbol mark => exact .error _ rfl
    | endOfInput => exact .error _ rfl

/-- **The parser goes in step** over a list and its renamed form. -/
theorem renamed_inStep (hf : ∀ w, f w = "" ↔ w = "") :
    InStep (Renamed f) fun c d => d = c.mapWords f where
  simple := by
    rintro ts _ rfl
    exact readSimple_mapWord hf ts
  eat mark := by
    rintro ts _ rfl
    cases ts with
    | nil => exact .none
    | cons t ts =>
      cases t with
      | word w => exact .none
      | symbol m =>
        simp only [List.map_cons, Token.mapWord, eat]
        split
        · exact .some rfl
        · exact .none
      | endOfInput => exact .none
  atEnd := by
    rintro ts _ rfl
    cases ts with
    | nil => rfl
    | cons t ts => cases t <;> rfl
  join op := by
    rintro a _ c _ rfl rfl
    rfl
  setBackground := by
    rintro a _ rfl
    rw [Command.mapWords_setBackground]

end Renaming

/-! ## Whole lists of tokens -/

/-- **The parser has no reserved words.** If `f` keeps the empty word and no other one empty, a list
of tokens with `f` applied to every word parses to the tree of the list with `f` applied to every
name, argument and target, or fails for the same cause at the same position. -/
theorem verdict_map_mapWord {f : String → String} (hf : ∀ w, f w = "" ↔ w = "")
    (ts : List Token) :
    verdict (ts.map (Token.mapWord f)) = (verdict ts).map (Command.mapWords f) := by
  rw [verdict, verdict]
  rcases (renamed_inStep hf).parseTokens (rfl : Renamed f ts _) with
    ⟨c, _, hc, hd, rfl⟩ | ⟨e, vs, _, hvs, hws, rfl⟩
  · rw [hc, hd]
    rfl
  · rw [hvs, hws]
    simp only [Except.mapError, Except.map, Failure.position, List.length_map]

/-- Every word becomes a bar, but for the empty one: `a "" > b && c &` is a tree as before, and
without the name of the right command it fails where it did before. -/
theorem verdict_of_bars_as_words :
    let bar : String → String := fun w => if w = "" then "" else "|"
    let row : List Token := [.word "a", .word "", .symbol (.redirect .output), .word "b",
      .symbol (.connective .and), .word "c", .symbol .background]
    let gap : List Token := row.take 5 ++ [.word "", .symbol .background]
    (∀ w, bar w = "" ↔ w = "") ∧
      verdict (row.map (Token.mapWord bar)) =
        .ok ((Command.join .and (.simple ⟨"|", [""], [⟨.output, "|"⟩]⟩ false)
          (.simple ⟨"|", [], []⟩ false)).setBackground true) ∧
      verdict (gap.map (Token.mapWord bar)) = .error (.expectedCommand, 5) := by
  intro bar row gap
  have hbar : ∀ w, bar w = "" ↔ w = "" := by
    intro w
    by_cases hw : w = "" <;> simp [bar, hw]
  refine ⟨hbar, ?_, ?_⟩
  · rw [verdict_map_mapWord hbar]
    decide +kernel
  · rw [verdict_map_mapWord hbar]
    decide +kernel

end LineShell
