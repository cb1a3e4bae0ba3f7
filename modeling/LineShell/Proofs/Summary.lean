import LineShell.Proofs.RoundTrip

/-!
# What a summary line says

The summary of a parsed line is the kind of its root in brackets, the rendered tree, and the
background mark of the root. What follows the brackets (`Command.summary`) is a line again. Unlike
the rendered tree it shows the mark, so it reads back as the tree itself, mark and all, as soon as
the words of the tree are plain.

Words that are not plain never read back, not even by accident: a word `&` at the end of a line is
summed up like a background mark, but a tree with this word is not what comes back. This follows
from counting characters as for rendered trees.

Results:
* `reads_summary`: a summary with plain words has the tokens of the tree and its mark.
* `plain_of_parse_summary`: a tree that its summary parses to has plain words.
* **`parse_summary_iff`**: the tree of a line is what its summary parses to exactly if its words are
  plain, so that trees with plain words are told by their summaries.
-/

namespace LineShell

open Grammar

namespace Command

/-- What a summary says after the brackets. -/
def summary (c : Command) : String :=
  c.render ++ if c.isBackground then " &" else ""

theorem describe_eq (c : Command) : c.describe = "[" ++ c.label ++ "] " ++ c.summary := by
  simp only [describe, summary, String.append_assoc]

/-! ## The label -/

theorem bracket_notMem_label (c : Command) : ']' ∉ c.label.toList := by
  have hnode (op : Connective) : ']' ∉ op.label.toList := by cases op <;> decide
  have hsimple : ']' ∉ "simple".toList := by decide
  cases c with
  | simple => exact hsimple
  | node op => exact hnode op

/-- Equal summary lines have equal summaries, since no label holds a bracket. -/
theorem summary_eq_of_describe_eq {c d : Command} (h : c.describe = d.describe) :
    c.summary = d.summary := by
  have htext (e : Command) : e.describe.toList = '[' :: (e.label.toList ++ ']' :: ' ' ::
      e.summary.toList) := by simp [describe_eq]
  have hskip (e : Command) : (e.label.toList ++ ']' :: ' ' :: e.summary.toList).dropWhile
      (· != ']') = ']' :: ' ' :: e.summary.toList := by
    rw [List.dropWhile_append_of_pos, List.dropWhile_cons_of_neg (by simp)]
    intro a ha
    refine bne_iff_ne.mpr ?_
    rintro rfl
    exact e.bracket_notMem_label ha
  have hrest := congrArg (fun cs => (cs.drop 1).dropWhile (· != ']')) (congrArg String.toList h)
  simp only [htext, List.drop_succ_cons, List.drop_zero, hskip] at hrest
  exact String.toList_injective (by simpa using hrest)

end Command

/-! ## Summaries as lines -/

/-- **A summary with plain words** has the tokens of the tree, and the mark of its root. -/
theorem reads_summary {c : Command} (h : c.Plain) :
    Reads c.summary.toList (c.tokens ++ marks c.isBackground) :=
  (reads_render h).marked c.isBackground

theorem spaced_summary (c : Command) :
    Spaced c.summary.toList (c.tokens ++ marks c.isBackground) := by
  have hmark : Spaced (if c.isBackground then " &" else "").toList (marks c.isBackground) := by
    cases c.isBackground with
    | false => exact ⟨0, .refl _⟩
    | true => exact spaced_blank.append (spaced_token (.symbol .background))
  rw [Command.summary, String.toList_append]
  exact (spaced_render c).append hmark

theorem parse_summary {c : Command} (hplain : c.Plain) (h : c.Writable) :
    parse c.summary = .ok c := by
  rw [parse_eq_ok_iff_line, (reads_summary hplain).tokens_eq]
  exact h.line

/-- **A tree that its summary parses to** has plain words. -/
theorem plain_of_parse_summary {c : Command} (h : parse c.summary = .ok c) : c.Plain := by
  have hperm := (parse_eq_ok_iff_line.mp h).perm_tokens
  rw [← List.append_nil (c.tokens ++ marks c.isBackground)] at hperm
  intro w hw
  refine (plain_of_spaced (spaced_summary c) hperm).1 w ?_
  exact List.mem_append_left _ (Command.mem_tokens_of_mem_words hw)

/-- **What a summary line loses.** What follows the label in the summary of a parsed line parses to
the tree of the line, with all background marks, exactly if the words of the tree are plain. So two
parsed trees with plain words are equal if their summary lines are. -/
theorem parse_summary_iff {line : String} {c : Command} (h : parse line = .ok c) :
    (∃ summary, c.describe = "[" ++ c.label ++ "] " ++ summary ∧
      (parse summary = .ok c ↔ c.Plain)) ∧
    ∀ line' d, parse line' = .ok d → c.Plain → d.Plain → c.describe = d.describe → c = d := by
  have hwritable := (parse_eq_ok_iff_line.mp h).writable
  refine ⟨⟨c.summary, c.describe_eq, plain_of_parse_summary, fun hc => parse_summary hc hwritable⟩,
    fun line' d hd hc hplain hdescribe => ?_⟩
  have hc := parse_summary hc hwritable
  have hd := parse_summary hplain (parse_eq_ok_iff_line.mp hd).writable
  rw [Command.summary_eq_of_describe_eq hdescribe, hd] at hc
  exact (Except.ok.inj hc).symm

/-- The target `f &` in quotes and the target `f` before a background mark have the same summary
line, which reads back as the latter. -/
theorem parse_summary_of_mark_as_word :
    let marked : Command := .simple ⟨"a", ["b"], [⟨.output, "f"⟩]⟩ true
    let quoted : Command := .simple ⟨"a", ["b"], [⟨.output, "f &"⟩]⟩ false
    (parse "a > f b &" = .ok marked ∧ marked.describe = "[simple] a b > f &" ∧
      parse "a b > f &" = .ok marked) ∧
    parse "a b > 'f &'" = .ok quoted ∧ quoted.describe = "[simple] a b > f &" ∧
      parse "a b > f &" ≠ .ok quoted := by
  intro marked quoted
  have hmarked : parse "a > f b &" = .ok marked := by cbv
  have hquoted : parse "a b > 'f &'" = .ok quoted := by cbv
  have rest {summary : String} (h : "[simple] a b > f &" = "[simple] " ++ summary) :
      summary = "a b > f &" := by
    have htext : "[simple] a b > f &" = "[simple] " ++ "a b > f &" := by decide
    rw [htext] at h
    exact (String.append_right_inj _ |>.mp h).symm
  obtain ⟨summary, hsummary, hiff⟩ := (parse_summary_iff hmarked).1
  obtain rfl := rest hsummary
  obtain ⟨summary, hsummary, hiff'⟩ := (parse_summary_iff hquoted).1
  obtain rfl := rest hsummary
  exact ⟨⟨hmarked, by decide, hiff.mpr (by decide)⟩, hquoted, by decide,
    fun h => absurd (hiff'.mp h) (by decide)⟩

end LineShell
