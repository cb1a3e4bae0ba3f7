import LineShell.Proofs.Position
import LineShell.Proofs.Rendering

/-!
# Two lines and a semicolon

A line, a semicolon and another line are one line. If the first one is closed, the semicolon is
read as a token of its own, so the tokens of the whole are those of the parts with a semicolon
between them. What the whole parses to then depends only on what the parts parse to.

* Failures are told by a walk over the places (`Place.fault?`): the cause is that of the first place
  that does not admit the next token, or of the last place if no line may end there. The semicolon
  is admitted inside a command only, so a walk that ends early in the first line ends early in the
  whole, and a walk that comes to its end there starts anew after the semicolon.
* Trees are told by the grammar: the commands of the second sequence (`Command.items`) are joined to
  the first one by one, since a sequence grows to the left.

Results:
* `parseTokens_eq_error_iff`, `parse_eq_error_iff`: the cause of a failure is that of the walk.
* `Grammar.Sequence.append`: two sequences with a semicolon between them.
* **`parse_semicolon`**: the whole, by what the parts parse to.
-/

namespace LineShell

open Grammar Place

/-! ## Failures as walks -/

namespace Place

/-- The cause why a row of tokens does not lead from a place to one where a line may end. -/
def fault? (p : Place) : List Token → Option ParseError
  | [] => if p.final then none else some p.error
  | t :: ts => if p.admits t then (after t).fault? ts else some p.error

theorem fault?_of_run {p q : Place} {ts : List Token} (h : p.run ts = some q) (us : List Token) :
    p.fault? (ts ++ us) = q.fault? us := by
  induction ts generalizing p with
  | nil =>
    obtain rfl : p = q := Option.some.inj h
    rfl
  | cons t ts ih =>
    have ht := admits_of_run_cons h
    rw [run, if_pos ht] at h
    rw [List.cons_append, fault?, if_pos ht, ih h]

/-- A walk that ends early ends there whatever follows. -/
theorem fault?_of_run_eq_none {p : Place} {ts : List Token} (h : p.run ts = none)
    (us : List Token) : p.fault? (ts ++ us) = p.fault? ts := by
  induction ts generalizing p with
  | nil => simp [run] at h
  | cons t ts ih =>
    rw [List.cons_append, fault?, fault?]
    split
    · next ht =>
      rw [run, if_pos ht] at h
      exact ih h
    · rfl

theorem fault?_of_not_final {p : Place} (hp : p.final = false) {ts : List Token}
    (h : ∀ t ∈ ts.head?, p.admits t = false) : p.fault? ts = some p.error := by
  cases ts with
  | nil => rw [fault?, if_neg (by simp [hp])]
  | cons t ts => rw [fault?, if_neg (by simp [h t rfl])]

end Place

/-- The walk over the tokens of a failure comes to its cause. -/
theorem fault?_of_parseTokens_eq_error {ts : List Token} {f : Failure}
    (h : parseTokens ts = .error f) : start.fault? (beforeEnd ts) = some f.error := by
  obtain ⟨used, q, rfl, hrun, herror, hadmits, hend⟩ := parseTokens_stuck h
  rw [beforeEnd_append_of_notMem (endOfInput_notMem_of_run hrun), fault?_of_run hrun, ← herror]
  have hnext : ∀ t ∈ (beforeEnd f.rest).head?, q.admits t = false :=
    fun t ht => hadmits t (head?_of_mem_head?_beforeEnd ht)
  cases hq : q.final with
  | false => exact fault?_of_not_final hq hnext
  | true =>
    -- a line might have ended here, so there is a next token, which is not admitted
    have hne : beforeEnd f.rest ≠ [] := by
      rw [ne_eq, beforeEnd_eq_nil_iff, hend hq]
      exact Bool.false_ne_true
    obtain ⟨t, us, hrest⟩ := List.exists_cons_of_ne_nil hne
    rw [hrest, fault?, if_neg (by simp [hnext t (by rw [hrest]; rfl)])]

theorem fault?_of_parseTokens_eq_ok {ts : List Token} {c : Command}
    (h : parseTokens ts = .ok c) : start.fault? (beforeEnd ts) = none := by
  obtain ⟨q, hrun, hfinal⟩ := (line_of_parseTokens h).run
  have hwalk := fault?_of_run hrun []
  rwa [List.append_nil, fault?, if_pos hfinal] at hwalk

/-- **The cause of a failure is that of the walk over the places.** -/
theorem parseTokens_eq_error_iff {ts : List Token} {e : ParseError} :
    (∃ f, parseTokens ts = .error f ∧ f.error = e) ↔ start.fault? (beforeEnd ts) = some e := by
  constructor
  · rintro ⟨f, hf, rfl⟩
    exact fault?_of_parseTokens_eq_error hf
  · intro h
    cases hparse : parseTokens ts with
    | ok c =>
      rw [fault?_of_parseTokens_eq_ok hparse] at h
      simp at h
    | error f =>
      rw [fault?_of_parseTokens_eq_error hparse] at h
      exact ⟨f, rfl, Option.some.inj h⟩

/-- The tokens of a line before the end of the input. -/
def lineTokens (line : String) : List Token :=
  (lexemes line.toList).map Lexeme.token

theorem beforeEnd_tokenize (line : String) : beforeEnd (tokenize line) = lineTokens line :=
  beforeEnd_append (endOfInput_notMem_map_token _) rfl

/-- **Why a line fails to parse.** -/
theorem parse_eq_error_iff {line : String} {e : ParseError} :
    parse line = .error e ↔ start.fault? (lineTokens line) = some e := by
  rw [← beforeEnd_tokenize, ← parseTokens_eq_error_iff, parse]
  cases parseTokens (tokenize line) <;> simp

/-! ## Sequences one after the other -/

namespace Command

/-- The commands of a sequence, from left to right. -/
def items : Command → List Command
  | node .sequence left right _ => left.items ++ [right]
  | c => [c]

theorem items_of_strength_pos {c : Command} (h : 0 < c.strength) : c.items = [c] := by
  cases c with
  | simple => rfl
  | node op => cases op with
    | sequence => simp [strength, Connective.strength] at h
    | _ => rfl

/-- The sequence with the commands of another one at its end, which runs in the background if the
other one does. -/
def followedBy (c d : Command) : Command :=
  ((d.setBackground false).items.foldl (join .sequence) c).setBackground d.isBackground

end Command

/-- **Sequences one after the other**: the commands of the second one are joined to the first one,
from left to right. -/
theorem Grammar.Sequence.append {ts us : List Token} {c d : Command} (hc : Sequence ts c)
    (hd : Sequence us d) :
    Sequence (ts ++ .symbol (.connective .sequence) :: us)
      (d.items.foldl (Command.join .sequence) c) := by
  induction hd with
  | operand h =>
    rw [Command.items_of_strength_pos h.fits.le]
    exact hc.more h
  | @more us vs left right _ h ih =>
    have hitems : (left.join .sequence right).items = left.items ++ [right] := rfl
    rw [hitems, List.foldl_append, ← List.cons_append, ← List.append_assoc]
    exact ih.more h

/-! ## Lines -/

/-- The semicolon after a closed text is a token of its own. -/
theorem lineTokens_semicolon {first : String} (h : Closed first.toList) (second : String) :
    lineTokens (first ++ ";" ++ second) =
      lineTokens first ++ .symbol (.connective .sequence) :: lineTokens second := by
  have hsep : Separates first.toList (';' :: second.toList) :=
    separates_cons (by decide) (by decide) _ _
  have hsemicolon : lexemes (';' :: second.toList) =
      .symbol (.connective .sequence) :: lexemes second.toList :=
    lexemes_of_next? (Lexeme.next?_of_munch? rfl)
  have htext : (first ++ ";" ++ second).toList = first.toList ++ ';' :: second.toList := by simp
  rw [lineTokens, htext, lexemes_append h hsep, hsemicolon, List.map_append, List.map_cons]
  rfl

/-- What a line parses to leads from the start to the inside of a command, or to its closed end. -/
theorem run_of_parse {line : String} {c : Command} (h : parse line = .ok c) :
    start.run (lineTokens line) = some (if c.isBackground then closed else inside) := by
  obtain ⟨us, hus, hroot⟩ := line_iff.mp (parse_eq_ok_iff_line.mp h)
  rw [lineTokens, hus, run_append, hroot.run]
  cases c.isBackground <;> rfl

/-- The tokens of a line without a mark at its root are a sequence. -/
theorem sequence_of_parse {line : String} {c : Command} (h : parse line = .ok c)
    (hb : c.isBackground = false) : Sequence (lineTokens line) c := by
  obtain ⟨us, hus, hroot⟩ := line_iff.mp (parse_eq_ok_iff_line.mp h)
  rw [hb, marks, if_neg Bool.false_ne_true, List.append_nil] at hus
  rw [Command.setBackground_eq_self hb] at hroot
  rwa [lineTokens, hus]

/-- A walk that fails over the first line fails over the whole, for the same cause. -/
theorem fault?_semicolon {ts : List Token} {e : ParseError} (h : start.fault? ts = some e)
    (us : List Token) :
    start.fault? (ts ++ .symbol (.connective .sequence) :: us) = some e := by
  cases hrun : start.run ts with
  | none => rw [fault?_of_run_eq_none hrun, h]
  | some q =>
    have hend := fault?_of_run hrun []
    rw [List.append_nil, h, fault?] at hend
    rw [fault?_of_run hrun]
    cases q <;> simp_all [final, fault?, admits]

/-- A sequence and a line after it are a line. -/
theorem Grammar.Line.of_sequence_append {ts us : List Token} {c d : Command} (hc : Sequence ts c)
    (hd : Line us d) :
    Line (ts ++ .symbol (.connective .sequence) :: us) (c.followedBy d) ∧
      ((c.followedBy d).setBackground false).Foreground := by
  obtain ⟨vs, rfl, hroot⟩ := line_iff.mp hd
  have hwhole := hc.append hroot
  have hcleared : (c.followedBy d).setBackground false =
      (d.setBackground false).items.foldl (Command.join .sequence) c := by
    rw [Command.followedBy, Command.setBackground_setBackground,
      Command.setBackground_eq_self hwhole.fits.foreground.isBackground_eq]
  rw [hcleared]
  refine ⟨line_iff.mpr ⟨_, ?_, hcleared ▸ hwhole⟩, hwhole.fits.foreground⟩
  rw [Command.followedBy, Command.isBackground_setBackground, List.append_assoc, List.cons_append]

/-- **Two lines and a semicolon.** Let the first line be closed. If it fails to parse, the whole
fails for the same cause. If its tree is marked, the whole has too many tokens. Otherwise the whole
fails like the second line, or it is the first tree with the commands of the second one at its end:
the root is marked if that of the second tree is, and no other node is. -/
theorem parse_semicolon {first : String} (h : Closed first.toList) (second : String) :
    (∀ e, parse first = .error e → parse (first ++ ";" ++ second) = .error e) ∧
    (∀ c, parse first = .ok c → c.isBackground = true →
      parse (first ++ ";" ++ second) = .error .unexpectedTrailingTokens) ∧
    ∀ c, parse first = .ok c → c.isBackground = false →
      (∀ e, parse second = .error e → parse (first ++ ";" ++ second) = .error e) ∧
      ∀ d, parse second = .ok d →
        parse (first ++ ";" ++ second) = .ok (c.followedBy d) ∧
        (c.followedBy d).isBackground = d.isBackground ∧
        ((c.followedBy d).setBackground false).Foreground := by
  have htokens := lineTokens_semicolon h second
  refine ⟨fun e he => ?_, fun c hc hb => ?_, fun c hc hb => ⟨fun e he => ?_, fun d hd => ?_⟩⟩
  · rw [parse_eq_error_iff] at he ⊢
    rw [htokens]
    exact fault?_semicolon he _
  · have hrun := run_of_parse hc
    rw [hb, if_pos rfl] at hrun
    rw [parse_eq_error_iff, htokens, fault?_of_run hrun]
    rfl
  · have hrun := run_of_parse hc
    rw [hb, if_neg Bool.false_ne_true] at hrun
    rw [parse_eq_error_iff] at he ⊢
    rw [htokens, fault?_of_run hrun]
    exact he
  · obtain ⟨hline, hforeground⟩ :=
      Line.of_sequence_append (sequence_of_parse hc hb) (parse_eq_ok_iff_line.mp hd)
    refine ⟨?_, Command.isBackground_setBackground _ _, hforeground⟩
    rw [parse_eq_ok_iff_line, ← lineTokens, htokens]
    exact hline

/-- The semicolon in quotes belongs to its word, and the second line goes on with the sequence that
the first one begins. -/
theorem parse_semicolon_after_quotes :
    let leaf (name : String) (arguments : List String) : Command :=
      .simple ⟨name, arguments, []⟩ false
    let first := "a 'x;y'"
    let second := "b || c; d &"
    Closed first.toList ∧ parse (first ++ ";" ++ second) =
      .ok ((((leaf "a" ["x;y"]).join .sequence ((leaf "b" []).join .or (leaf "c" []))).join
        .sequence (leaf "d" [])).setBackground true) := by
  intro leaf first second
  have hclosed : Closed first.toList := by
    unfold Closed
    decide +kernel
  have hfirst : parse first = .ok (leaf "a" ["x;y"]) := by decide +kernel
  have hsecond : parse second =
      .ok ((((leaf "b" []).join .or (leaf "c" [])).join .sequence (leaf "d" [])).setBackground
        true) := by decide +kernel
  exact ⟨hclosed, (((parse_semicolon hclosed second).2.2 _ hfirst rfl).2 _ hsecond).1⟩

end LineShell
