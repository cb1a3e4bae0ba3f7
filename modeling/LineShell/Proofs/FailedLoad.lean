import LineShell.Proofs.Continuity

/-!
# History after a load that fails

A history file is loaded line by line. At a line that is not a text the load fails and stops, but
the session goes on with the entries before it (`History.entriesOf`). They count as new, as if they
had just been entered, so that the save at the end writes them again, before the lines that the
session enters.

So a line that was loaded is in the file that the session leaves, if there is room for all of them.
This is followed through both ways of the file. A line without a backslash is its own entry, with
and without the mark of the format (`entryOn_of_not_mem`), and is escaped as itself
(`escapeEntry_of_not_mem`). An empty line is no entry, and the end of a line takes away a carriage
return. Nothing is promised of the lines after the first one that is not a text.

Results:
* `mark_or_mem_entriesOf`, `dropReturn_mem_linesOf_content`: a line on its way into the history, and
  out of it.
* `Host.holds_dialogue_of_failed`: what the history holds at the end of the dialogue.
* **`lines_kept_after_failed_load`**: the lines before the first one that is not a text are kept,
  and a session that saves nothing leaves the file as it was.
-/

namespace LineShell

/-! ## What is loaded before a line that is not a text -/

/-- The lines of a file before the first one that is not a text. -/
def linesLoaded (content : Bytes) : List Bytes :=
  (linesOf content).takeWhile fun line => (decode? line).isSome

theorem mem_linesOf_of_mem_linesLoaded {content line : Bytes} (h : line ∈ linesLoaded content) :
    line ∈ linesOf content :=
  (List.takeWhile_sublist _).mem h

theorem exists_text_of_mem_linesLoaded {content line : Bytes} (h : line ∈ linesLoaded content) :
    ∃ text, decode? line = some text := by
  have htext : (decode? line).isSome = true :=
    List.mem_takeWhile_imp (p := fun line => (decode? line).isSome) h
  exact Option.isSome_iff_exists.mp htext

def backslash : UInt8 := 92

namespace History

theorem length_entriesOn_le (escaped : Bool) (lines : List Bytes) :
    (entriesOn escaped lines).length ≤ lines.length := by
  induction lines with
  | nil => exact Nat.le_refl 0
  | cons line more ih =>
    unfold entriesOn
    split
    · exact Nat.zero_le _
    · exact Nat.succ_le_succ ih

theorem length_entriesOf_le (content : Bytes) :
    (entriesOf content).length ≤ (linesOf content).length := by
  unfold entriesOf
  cases linesOf content with
  | nil => exact Nat.le_refl 0
  | cons first more =>
    dsimp only
    split
    · exact (length_entriesOn_le true more).trans (Nat.le_succ _)
    · exact length_entriesOn_le false (first :: more)

theorem entryOfLine?_of_not_mem {cs : List Char} (h : '\\' ∉ cs) : entryOfLine? cs = some cs := by
  induction cs with
  | nil => rfl
  | cons c cs ih =>
    rw [List.mem_cons, not_or] at h
    have hc : c ≠ '\\' := Ne.symm h.1
    simp [entryOfLine?, hc, ih h.2]

/-- A text without a backslash is the entry on its line, whether the lines are escaped or not. -/
theorem entryOn_of_not_mem (escaped : Bool) {line : String} (h : '\\' ∉ line.toList) :
    entryOn escaped line = line := by
  unfold entryOn
  rw [entryOfLine?_of_not_mem h, Option.elim_some, String.ofList_toList, ite_self]

theorem entryOn_mem_entriesOn (escaped : Bool) {lines : List Bytes} {bytes : Bytes} {line : String}
    (hmem : bytes ∈ lines.takeWhile fun line => (decode? line).isSome)
    (hline : decode? bytes = some line) : entryOn escaped line ∈ entriesOn escaped lines := by
  induction lines with
  | nil => exact absurd hmem List.not_mem_nil
  | cons first more ih =>
    rw [List.takeWhile_cons] at hmem
    cases hfirst : decode? first with
    | none => simp [hfirst] at hmem
    | some text =>
      rw [hfirst, Option.isSome_some, if_pos rfl] at hmem
      rw [entriesOn, hfirst]
      rcases List.mem_cons.mp hmem with rfl | hmore
      · obtain rfl := Option.some.inj (hfirst.symm.trans hline)
        exact List.mem_cons_self
      · exact List.mem_cons_of_mem _ (ih hmore)

/-- **A line that is loaded as it is** is the mark of the format, or an entry. -/
theorem mark_or_mem_entriesOf {content bytes : Bytes} {line : String}
    (hmem : bytes ∈ linesLoaded content) (hline : decode? bytes = some line)
    (hplain : '\\' ∉ line.toList) : line = historyMark ∨ line ∈ entriesOf content := by
  unfold linesLoaded at hmem
  unfold entriesOf
  cases hlines : linesOf content with
  | nil => simp [hlines] at hmem
  | cons first more =>
    rw [hlines] at hmem
    dsimp only
    by_cases hmark : decode? first = some historyMark
    · rw [if_pos hmark]
      rw [List.takeWhile_cons_of_pos (by rw [hmark]; rfl)] at hmem
      rcases List.mem_cons.mp hmem with rfl | hmore
      · exact .inl (Option.some.inj (hline.symm.trans hmark))
      · exact .inr (entryOn_of_not_mem true hplain ▸ entryOn_mem_entriesOn true hmore hline)
    · rw [if_neg hmark]
      exact .inr (entryOn_of_not_mem false hplain ▸ entryOn_mem_entriesOn false hmem hline)

/-! ## What is saved -/

/-- **A line without a backslash is saved as it is**, but for a carriage return at its end. -/
theorem dropReturn_mem_linesOf_content {entries : List String} {bytes : Bytes} {line : String}
    (hline : decode? bytes = some line) (hfeed : lineFeed ∉ bytes) (hback : '\\' ∉ line.toList)
    (hmem : line = historyMark ∨ line ∈ entries) :
    dropReturn bytes ∈ linesOf (content entries) := by
  have hbytes : encode line = bytes := encode_of_decode? hline
  rw [linesOf_content_eq_map]
  rcases hmem with rfl | hentry
  · rw [← hbytes, dropReturn_encode (by decide)]
    exact List.mem_cons_self
  · refine List.mem_cons_of_mem _ (List.mem_map.mpr ⟨line, hentry, ?_⟩)
    have hfeed' : '\n' ∉ line.toList := fun h =>
      hfeed (hbytes ▸ mem_encode (c := '\n') (by decide) h)
    rw [escapeEntry_of_not_mem hback hfeed', String.ofList_toList, hbytes]

end History

/-! ## The session -/

/-- **The history file is there, but its load fails** at a line that is not a text. -/
def FailsToLoad (s : Settings) (files : FileTree) (content : Bytes) : Prop :=
  files.read s.historyFile = .ok content ∧
    ((History.empty s.historySize).load content).complete = false

/-- A file without a line is loaded as a whole. -/
theorem FailsToLoad.length_pos {s : Settings} {files : FileTree} {content : Bytes}
    (h : FailsToLoad s files content) : 0 < (linesOf content).length := by
  obtain ⟨-, hfail⟩ := h
  refine List.length_pos_iff.mpr fun hnone => ?_
  simp [History.load, hnone] at hfail

namespace Host

variable {host : Host} {log : Location} {content : Bytes}

theorem capacity_dialogue (host : Host) (log : Location) :
    (host.dialogue log).history.capacity = host.settings.historySize := by
  rw [dialogue, Manner.history_converse, History.capacity_foldl_add]
  unfold loading loadHistory
  split
  · rfl
  · exact History.capacity_load _ _

section FailedLoad

variable (hlog : host.startUp.1.place host.settings.historyFile ≠ .ok (.name log))
  (hfailed : FailsToLoad host.settings host.startUp.1 content)

include hlog hfailed

/-- **What the history of a session holds whose load has failed**: the last of the entries before
the bad line and the lines that were entered. All of them count as new. -/
theorem holds_dialogue_of_failed (hsize : 1 ≤ host.settings.historySize) :
    (host.dialogue log).history.Holds [] (withoutRepeats
      ((History.entriesOf content ++ entered (linesOf host.input)).filter (· ≠ ""))) := by
  obtain ⟨hread, hfail⟩ := hfailed
  have hloaded : (host.loading log).2 =
      (History.entriesOf content).foldl History.add (.empty host.settings.historySize) := by
    rw [loading, readHistory, read_filesAtLoad hlog, hread]
    exact History.history_load_of_failed hfail
  rw [dialogue, Manner.history_converse, hloaded, ← List.foldl_append, ← History.foldl_add_filter]
  refine History.holds_foldl_add (History.proper_empty _) hsize rfl fun line hline => ?_
  exact of_decide_eq_true (List.mem_filter.mp hline).2

variable (hfits : (linesOf content).length + (entered (linesOf host.input)).length ≤
  host.settings.historySize)

include hfits

/-- **If there is room for all lines**, they are all there. -/
theorem entries_dialogue_of_failed :
    (host.dialogue log).history.entries = withoutRepeats
      ((History.entriesOf content ++ entered (linesOf host.input)).filter (· ≠ "")) := by
  have hpositive := hfailed.length_pos
  have hholds := holds_dialogue_of_failed hlog hfailed (by omega)
  have hrepeats := length_withoutRepeats_le
    ((History.entriesOf content ++ entered (linesOf host.input)).filter (· ≠ ""))
  have hfilter := List.length_filter_le (fun line => decide (line ≠ ""))
    (History.entriesOf content ++ entered (linesOf host.input))
  have hentries := History.length_entriesOf_le content
  rw [List.length_append] at hfilter
  rw [hholds.entries_eq, capacity_dialogue, List.rtake, Nat.sub_eq_zero_of_le (by omega),
    List.drop_zero]

/-- **What is saved has the lines that were loaded.** -/
theorem dropReturn_mem_linesOf_saved {line : Bytes} (hline : line ∈ linesLoaded content)
    (hne : line ≠ []) (hback : backslash ∉ line) :
    dropReturn line ∈ linesOf (History.content (host.dialogue log).history.entries) := by
  obtain ⟨text, htext⟩ := exists_text_of_mem_linesLoaded hline
  have hbytes : encode text = line := encode_of_decode? htext
  have hplain : '\\' ∉ text.toList := fun h =>
    hback (hbytes ▸ mem_encode (c := '\\') (by decide) h)
  have hfeed : lineFeed ∉ line := lineFeed_not_mem_of_mem_linesFrom List.not_mem_nil
    (mem_linesOf_of_mem_linesLoaded hline)
  have hnonempty : text ≠ "" := by
    rintro rfl
    exact hne hbytes.symm
  refine History.dropReturn_mem_linesOf_content htext hfeed hplain ?_
  rw [entries_dialogue_of_failed hlog hfailed hfits]
  refine (History.mark_or_mem_entriesOf hline htext hplain).imp_right fun hentry => ?_
  exact mem_withoutRepeats (List.mem_filter.mpr
    ⟨List.mem_append_left _ hentry, decide_eq_true hnonempty⟩)

end FailedLoad

end Host

/-- **History after a load that fails.** Let a session start, let the load of its history file,
which is not the log file, fail, and let there be room in the history for the lines of this file and
those that the session enters. Then the file is still there after the session, and

* each line before the first one that is not a text, neither empty nor with a backslash in it, is
  still a line of the file; at most it has lost a carriage return at its end;
* if the dialogue is broken off, or if there is no entry at its end, the file is as it was. -/
theorem lines_kept_after_failed_load {host : Host} {log : Location} {content : Bytes}
    (hstart : host.startUp.2 = .ok log)
    (hlog : host.startUp.1.place host.settings.historyFile ≠ .ok (.name log))
    (hfailed : FailsToLoad host.settings host.startUp.1 content)
    (hfits : (linesOf content).length + (entered (linesOf host.input)).length ≤
      host.settings.historySize) :
    ∃ after, host.run.files.read host.settings.historyFile = .ok after ∧
      (∀ line ∈ linesLoaded content, line ≠ [] → backslash ∉ line →
        line ∈ linesOf after ∨ dropReturn line ∈ linesOf after) ∧
      ((host.dialogue log).brokenOff = true ∨ (host.dialogue log).history.entries = [] →
        after = content) := by
  by_cases huntouched :
      (host.dialogue log).brokenOff = true ∨ (host.dialogue log).history.entries = []
  · have hread : host.run.files.read host.settings.historyFile = .ok content := by
      rcases huntouched with hbreak | hnone
      · rw [Host.read_run_of_brokenOff hstart hbreak hlog, hfailed.1]
      · rw [Host.read_run_of_not_saved hstart (if_pos (.inl hnone)) hlog, hfailed.1]
    refine ⟨content, hread, ?_, fun _ => rfl⟩
    intro line hline _ _
    exact .inl (mem_linesOf_of_mem_linesLoaded hline)
  · obtain ⟨hgoes, hsome⟩ := not_or.mp huntouched
    have hpositive := hfailed.length_pos
    have hholds := Host.holds_dialogue_of_failed hlog hfailed (by omega)
    have hread := Host.read_run_of_saved hstart (eq_false_of_ne_true hgoes)
      (hholds.save?_of_ne_nil hsome) (Host.saving_of_read hlog hfailed.1) hlog
    refine ⟨_, hread, ?_, fun h => absurd h huntouched⟩
    intro line hline hne hback
    exact .inr (Host.dropReturn_mem_linesOf_saved hlog hfailed hfits hline hne hback)

/-- A history of size 7 with its mark, two lines before one that is not a text and one after it. The
session enters two lines, and there is just enough room. -/
theorem history_before_bad_line_kept :
    let content := encode "#V2\n a\nb\n" ++ [255] ++ encode "\nc\n"
    let host : Host :=
      { inherited := [("HOME", "home"), ("TERM", "xterm"), ("MINISH_HISTORY", "past"),
          ("MINISH_HISTORY_SIZE", "7")]
        files := ⟨[(["past"], .file content)]⟩
        input := encode "b\n \nls\n"
        date := "2000-01-01" }
    FailsToLoad host.settings host.files content ∧
      ∃ after, host.run.files.read ⟨"past"⟩ = .ok after ∧
        ∀ text ∈ ["#V2", " a", "b"], encode text ∈ linesOf after := by
  intro content host
  have hstart : host.startUp.2 =
      .ok ["home", ".config", "minish", "logs", "minish_2000-01-01.log"] := by decide +kernel
  have hpath : host.settings.historyFile = ⟨"past"⟩ := by decide +kernel
  have hfailed : FailsToLoad host.settings host.files content :=
    ⟨by decide +kernel, by decide +kernel⟩
  obtain ⟨after, hafter, hkept, -⟩ := lines_kept_after_failed_load hstart (by decide +kernel)
    ⟨Host.read_startUp hstart hfailed.1, hfailed.2⟩ (by decide +kernel)
  rw [hpath] at hafter
  refine ⟨hfailed, after, hafter, fun text htext => ?_⟩
  have hline : ∀ text ∈ ["#V2", " a", "b"], encode text ∈ linesLoaded content ∧
      encode text ≠ [] ∧ backslash ∉ encode text ∧ dropReturn (encode text) = encode text := by
    decide +kernel
  obtain ⟨hloaded, hne, hback, hreturn⟩ := hline text htext
  simpa only [hreturn, or_self] using hkept (encode text) hloaded hne hback

/-- Other lines are lost when the history is saved: an empty one, the carriage return that another
one ends in, and one after the line that is not a text. -/
theorem lines_lost_after_failed_load :
    let content := encode "a\n\nb\r\r\n" ++ [255] ++ encode "\nc\n"
    let host : Host :=
      { inherited := [("HOME", "home"), ("TERM", "xterm"), ("MINISH_HISTORY", "past")]
        files := ⟨[(["past"], .file content)]⟩
        input := encode "exit\n"
        date := "2000-01-01" }
    let log : Location := ["home", ".config", "minish", "logs", "minish_2000-01-01.log"]
    let after := encode "#V2\na\nb\r\nexit\n"
    host.startUp.2 = .ok log ∧
      host.startUp.1.place host.settings.historyFile ≠ .ok (.name log) ∧
      FailsToLoad host.settings host.files content ∧
      (linesOf content).length + (linesOf host.input).length ≤ host.settings.historySize ∧
      host.run.files.read host.settings.historyFile = .ok after ∧
      ∀ text ∈ ["", "b\r", "c"], '\\' ∉ text.toList ∧
        encode text ∈ linesOf content ∧ encode text ∉ linesOf after := by
  unfold FailsToLoad
  decide +kernel

end LineShell
