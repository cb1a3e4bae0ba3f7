import LineShell.Proofs.InStep
import LineShell.Proofs.Shape

/-!
# Arguments and redirections in any order

After the name of a simple command its arguments and redirections may be mixed. Only the order of
the arguments among themselves counts, and that of the redirections among themselves: two rows of
parts with the same ones of each kind (`SameParts`) make the same command.

What stands before and after such a row may be anything, also tokens that do not parse. So the rows
are compared inside two lists of tokens that are the same elsewhere (`Interleaved`), and the parser
is followed over both lists in step. The row has to stand after a word: after a redirection operator
its first word would be a target.

Results:
* `readParts_tokens`: parts are read from their tokens, whatever follows.
* `interleaved_inStep`: the parser goes in step over lists that differ in such a row.
* **`verdict_of_sameParts`**: the tree, or the cause and the position of the failure, is the same.
-/

namespace LineShell

/-! ## Parts and their tokens -/

/-- The tokens of a part. -/
def Part.tokens : Part → List Token
  | argument value => [.word value]
  | redirection r => r.tokens

/-- **The same parts**, each kind in its order. -/
structure SameParts (ps qs : List Part) : Prop where
  arguments : ps.filterMap Part.argument? = qs.filterMap Part.argument?
  redirections : ps.filterMap Part.redirection? = qs.filterMap Part.redirection?

namespace SameParts

variable {ps qs ps' qs' : List Part}

theorem refl (ps : List Part) : SameParts ps ps := ⟨rfl, rfl⟩

theorem append (h : SameParts ps qs) (h' : SameParts ps' qs') :
    SameParts (ps ++ ps') (qs ++ qs') where
  arguments := by rw [List.filterMap_append, List.filterMap_append, h.arguments, h'.arguments]
  redirections := by
    rw [List.filterMap_append, List.filterMap_append, h.redirections, h'.redirections]

/-- The same parts make the same command. -/
theorem ofParts_eq (h : SameParts ps qs) (name : String) :
    SimpleCommand.ofParts name ps = SimpleCommand.ofParts name qs := by
  rw [SimpleCommand.ofParts, SimpleCommand.ofParts, h.arguments, h.redirections]

end SameParts

theorem length_flatMap_tokens (ps : List Part) : (ps.flatMap Part.tokens).length =
    (ps.filterMap Part.argument?).length + 2 * (ps.filterMap Part.redirection?).length := by
  induction ps with
  | nil => rfl
  | cons p ps ih =>
    rw [List.flatMap_cons, List.length_append, ih]
    cases p with
    | argument value =>
      simp [Part.tokens, List.filterMap_cons, Part.argument?, Part.redirection?]
      omega
    | redirection r =>
      simp [Part.tokens, Redirection.tokens, List.filterMap_cons, Part.argument?,
        Part.redirection?]
      omega

/-- **Parts are read from their tokens**, before those that follow. -/
theorem readParts_tokens (ps : List Part) (ts : List Token) :
    readParts (ps.flatMap Part.tokens ++ ts) = (readParts ts).map (Prod.map (ps ++ ·) id) := by
  induction ps with
  | nil =>
    cases hr : readParts ts with
    | error f => simp [hr, Except.map]
    | ok p => simp [hr, Except.map, Prod.map]
  | cons p ps ih =>
    rw [List.flatMap_cons, List.append_assoc]
    cases p with
    | argument value =>
      rw [Part.tokens, List.singleton_append, readParts, ih]
      cases readParts ts <;> rfl
    | redirection r =>
      rw [Part.tokens, Redirection.tokens, List.cons_append, List.singleton_append, readParts, ih]
      cases readParts ts <;> rfl

/-! ## Lists that differ in a row of parts -/

/-- **Two lists that differ in a row of parts** after some word, at most. -/
inductive Interleaved : List Token → List Token → Prop where
  | refl (ts : List Token) : Interleaved ts ts
  | parts {ps qs : List Part} (w : String) (ts : List Token) : SameParts ps qs →
      Interleaved (.word w :: (ps.flatMap Part.tokens ++ ts))
        (.word w :: (qs.flatMap Part.tokens ++ ts))
  | cons {ts us : List Token} (t : Token) : Interleaved ts us → Interleaved (t :: ts) (t :: us)

namespace Interleaved

variable {ts us : List Token}

theorem append_left (h : Interleaved ts us) (before : List Token) :
    Interleaved (before ++ ts) (before ++ us) := by
  induction before with
  | nil => exact h
  | cons t before ih => exact ih.cons t

theorem length_eq (h : Interleaved ts us) : ts.length = us.length := by
  induction h with
  | refl => rfl
  | parts w ts h =>
    simp only [List.length_cons, List.length_append, length_flatMap_tokens, h.arguments,
      h.redirections]
  | cons t _ ih => rw [List.length_cons, List.length_cons, ih]

/-- The lists have the same token at the front. -/
theorem head?_eq (h : Interleaved ts us) : ts.head? = us.head? := by
  cases h <;> rfl

/-- The tails are related too, unless the lists start with a word. -/
theorem exists_of_cons {t : Token} (ht : t.isWord = false) (h : Interleaved (t :: ts) us) :
    ∃ vs, us = t :: vs ∧ Interleaved ts vs := by
  cases h with
  | refl => exact ⟨ts, rfl, .refl ts⟩
  | parts => simp [Token.isWord] at ht
  | cons _ h => exact ⟨_, rfl, h⟩

end Interleaved

/-! ## The parser in step -/

section Reading

variable {ts us : List Token}

/-- After a word, both lists go on with parts that are the same. -/
theorem readParts_agree_of_word {w : String}
    (hread : ∀ {us}, Interleaved ts us →
      Agree Interleaved SameParts (readParts ts) (readParts us))
    (h : Interleaved (.word w :: ts) us) :
    ∃ vs, us = .word w :: vs ∧ Agree Interleaved SameParts (readParts ts) (readParts vs) := by
  cases h with
  | refl => exact ⟨ts, rfl, hread (.refl ts)⟩
  | @parts ps qs _ ts h =>
    refine ⟨_, rfl, ?_⟩
    rw [readParts_tokens, readParts_tokens]
    exact (Agree.refl .refl .refl (readParts ts)).map fun hrest => h.append hrest
  | cons _ h => exact ⟨_, rfl, hread h⟩

theorem readParts_agree (h : Interleaved ts us) :
    Agree Interleaved SameParts (readParts ts) (readParts us) := by
  fun_induction readParts ts generalizing us with
  | case1 w ts ih =>
    obtain ⟨vs, rfl, hvs⟩ := readParts_agree_of_word ih h
    rw [readParts]
    exact hvs.map fun hps => (SameParts.refl [.argument w]).append hps
  | case2 kind w ts ih =>
    obtain ⟨vs, rfl, htail⟩ := h.exists_of_cons rfl
    obtain ⟨vs, rfl, hvs⟩ := readParts_agree_of_word ih htail
    rw [readParts]
    exact hvs.map fun hps => (SameParts.refl [.redirection ⟨kind, w⟩]).append hps
  | case3 kind ts hfile =>
    obtain ⟨vs, rfl, htail⟩ := h.exists_of_cons rfl
    have hfile' : ∀ w ws, vs = .word w :: ws → False := by
      rintro w ws rfl
      obtain ⟨xs, hts⟩ := List.head?_eq_some_iff.mp htail.head?_eq
      exact hfile w xs hts
    rw [readParts.eq_3 kind vs hfile']
    exact .error _ htail
  | case4 ts hword hfile hopen =>
    have hstops : Stops IsPart us := by
      intro t ht
      rw [← h.head?_eq] at ht
      exact stops_isPart hword hopen t ht
    rw [readParts_of_stops hstops]
    exact .ok (.refl []) h

/-- **Simple commands are read in step**: the parts are the same, and so is the command. -/
theorem readSimple_agree (h : Interleaved ts us) :
    Agree Interleaved Eq (readSimple ts) (readSimple us) := by
  have other : ∀ {ts us}, (∀ t ∈ ts.head?, t.isWord = false) → Interleaved ts us →
      Agree Interleaved Eq (readSimple ts) (readSimple us) := by
    intro ts us hts h
    have heq : ∀ {vs : List Token}, (∀ t ∈ vs.head?, t.isWord = false) →
        readSimple vs = .error ⟨.expectedCommand, vs⟩ := by
      intro vs hvs
      fun_cases readSimple vs <;> simp_all [Token.isWord]
    rw [heq hts, heq (h.head?_eq ▸ hts)]
    exact .error _ h
  cases ts with
  | nil => exact other (by simp) h
  | cons t ts =>
    cases ht : t.isWord with
    | false => exact other (by simpa using ht) h
    | true =>
      obtain ⟨w, rfl⟩ : ∃ w, t = .word w := by
        cases t <;> simp_all [Token.isWord]
      obtain ⟨vs, rfl, hvs⟩ := readParts_agree_of_word readParts_agree h
      rw [readSimple, readSimple]
      split
      · exact .error _ h
      · exact hvs.map fun hps => by rw [hps.ofParts_eq]

/-- **The parser goes in step** over two lists that differ in a row of parts. -/
theorem interleaved_inStep : InStep Interleaved Eq where
  simple := readSimple_agree
  eat mark := by
    intro ts us h
    cases hts : eat mark ts with
    | none =>
      have hus : eat mark us = none := by
        rw [eat_eq_none_iff] at hts ⊢
        rwa [Stops, ← h.head?_eq]
      rw [hus]
      exact .none
    | some vs =>
      obtain rfl := eat_eq_some_iff.mp hts
      obtain ⟨ws, rfl, htail⟩ := h.exists_of_cons rfl
      rw [eat_eq_some_iff.mpr rfl]
      exact .some htail
  atEnd h := by
    cases h with
    | refl => rfl
    | parts => rfl
    | cons t => cases t <;> rfl
  join op := by
    rintro a _ c _ rfl rfl
    rfl
  setBackground := by
    rintro a _ rfl
    rfl

end Reading

/-! ## Whole lists of tokens -/

/-- **What parsing says** of a list of tokens: the tree, or the cause and the position of the
failure. -/
def verdict (ts : List Token) : Except (ParseError × Nat) Command :=
  (parseTokens ts).mapError fun f => (f.error, f.position ts)

theorem verdict_of_interleaved {ts us : List Token} (h : Interleaved ts us) :
    verdict ts = verdict us := by
  rw [verdict, verdict]
  rcases interleaved_inStep.parseTokens h with
    ⟨c, d, hc, hd, rfl⟩ | ⟨e, vs, ws, hvs, hws, hrest⟩
  · rw [hc, hd]
    rfl
  · rw [hvs, hws]
    simp only [Except.mapError, Failure.position, h.length_eq, hrest.length_eq]

/-- **Arguments and redirections commute.** After a word, an argument and a redirection can change
places, and a row of both can be replaced by one with the same arguments and the same redirections,
each in its order: parsing gives the same tree, or fails for the same cause at the same position,
whatever stands before and after. -/
theorem verdict_of_sameParts {before : List Token} {w : String}
    (h : before.getLast? = some (.word w)) (after : List Token) :
    (∀ (a : String) (kind : RedirectKind) (f : String),
      verdict (before ++ [.word a] ++ [.symbol (.redirect kind), .word f] ++ after) =
        verdict (before ++ [.symbol (.redirect kind), .word f] ++ [.word a] ++ after)) ∧
    ∀ ps qs : List Part, ps.filterMap Part.argument? = qs.filterMap Part.argument? →
      ps.filterMap Part.redirection? = qs.filterMap Part.redirection? →
      verdict (before ++ ps.flatMap Part.tokens ++ after) =
        verdict (before ++ qs.flatMap Part.tokens ++ after) := by
  have general : ∀ ps qs : List Part, SameParts ps qs →
      verdict (before ++ ps.flatMap Part.tokens ++ after) =
        verdict (before ++ qs.flatMap Part.tokens ++ after) := by
    intro ps qs hparts
    obtain ⟨init, rfl⟩ := List.getLast?_eq_some_iff.mp h
    have hrow := (Interleaved.parts w after hparts).append_left init
    exact verdict_of_interleaved (by simpa using hrow)
  refine ⟨fun a kind f => ?_, fun ps qs harguments hredirections =>
    general ps qs ⟨harguments, hredirections⟩⟩
  have hswap := general [.argument a, .redirection ⟨kind, f⟩]
    [.redirection ⟨kind, f⟩, .argument a] ⟨rfl, rfl⟩
  simpa [Part.tokens, Redirection.tokens] using hswap

/-- `a ; b c > f d < | e` fails at the bar, with the parts of `b` in any order. -/
theorem verdict_of_mixed_parts :
    let before : List Token := [.word "a", .symbol (.connective .sequence), .word "b"]
    let out : List Token := [.symbol (.redirect .output), .word "f"]
    let after : List Token :=
      [.symbol (.redirect .input), .symbol (.connective .pipeline), .word "e"]
    let failure : Except (ParseError × Nat) Command := .error (.expectedFilename .input, 8)
    before.getLast? = some (.word "b") ∧
      verdict (before ++ [.word "c"] ++ out ++ (.word "d" :: after)) = failure ∧
      verdict (before ++ out ++ [.word "c"] ++ (.word "d" :: after)) = failure ∧
      verdict (before ++ ([.word "c", .word "d"] ++ out) ++ after) = failure := by
  intro before out after failure
  have hlast : before.getLast? = some (.word "b") := rfl
  have hverdict : verdict (before ++ [.word "c"] ++ out ++ (.word "d" :: after)) = failure := by
    decide +kernel
  have hlate : verdict (before ++ ([.word "c"] ++ out ++ [.word "d"]) ++ after) =
      verdict (before ++ ([.word "c", .word "d"] ++ out) ++ after) :=
    (verdict_of_sameParts hlast after).2
      [.argument "c", .redirection ⟨.output, "f"⟩, .argument "d"]
      [.argument "c", .argument "d", .redirection ⟨.output, "f"⟩] rfl rfl
  refine ⟨hlast, hverdict, ?_, hlate ▸ hverdict⟩
  rw [← (verdict_of_sameParts hlast (.word "d" :: after)).1 "c" .output "f"]
  exact hverdict

end LineShell
