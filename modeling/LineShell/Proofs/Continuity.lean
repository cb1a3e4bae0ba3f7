import LineShell.Proofs.Retention
import LineShell.Proofs.Stages

/-!
# History across sessions

What one session saves the next one loads. A session enters the lines that it reads, up to the one
that stops it, as far as they are texts with more than white space in them (`entered`). A line is
what is left of it once its backspaces have had their effect, and a session that breaks off reads no
further. Its history is what `History.add` makes of the lines, one after the other, from the history
that was loaded (`history_converse`); `Holds` says what that is.

The rest is a matter of the files. The history file stands after the start as it stands until the
save. The save writes all entries or nothing, the farewell goes to the log, and the start of the
next session makes directories at most, and a log file. So the next session reads the content that
was saved, and `load_content` gives the entries back.

Results:
* `answer_entry`, `Manner.history_converse`: what goes to the history, and in which order.
* `Host.loading_of_findsHistory`: what a session loads.
* **`history_across_sessions`**: the history is proper at every moment and ends as the last lines of
  all; if none was added, no file but the log is touched; and if the save succeeds, the next session
  loads exactly these entries.
-/

namespace LineShell

/-! ## The lines that are entered -/

/-- The lines that a session reads: up to the one that stops it, or before the one that breaks it
off. -/
def linesRead : List Bytes → List Bytes
  | [] => []
  | line :: more =>
    if cuts line then [] else if stops line then [line] else line :: linesRead more

/-- What a line adds to the history: the text that it is read as, untrimmed, if there is more than
white space in it. -/
def enteredLine? (bytes : Bytes) : Option String :=
  (lineText? bytes).filter fun line => trim line ≠ ""

/-- **The lines that a session enters**, in their order. -/
def entered (lines : List Bytes) : List String :=
  (linesRead lines).filterMap enteredLine?

theorem enteredLine?_eq_some_iff {bytes : Bytes} {line : String} :
    enteredLine? bytes = some line ↔ lineText? bytes = some line ∧ trim line ≠ "" := by
  rw [enteredLine?, Option.filter_eq_some_iff, decide_eq_true_iff]

theorem enteredLine?_of_cuts {bytes : Bytes} (h : cuts bytes = true) :
    enteredLine? bytes = none := by
  cases hline : lineText? bytes with
  | none => rw [enteredLine?, hline, Option.filter_none]
  | some line => simp [cuts_eq_false_of_lineText? hline] at h

theorem ne_empty_of_mem_entered {lines : List Bytes} {line : String} (h : line ∈ entered lines) :
    line ≠ "" := by
  obtain ⟨bytes, -, hentry⟩ := List.mem_filterMap.mp h
  rintro rfl
  exact (enteredLine?_eq_some_iff.mp hentry).2 (by decide)

theorem entered_cons (line : Bytes) (more : List Bytes) :
    entered (line :: more) =
      if cuts line then []
      else if stops line then (enteredLine? line).toList
      else (enteredLine? line).toList ++ entered more := by
  rw [entered, linesRead]
  split
  · rfl
  · split
    · cases h : enteredLine? line <;> simp [h]
    · cases h : enteredLine? line <;> simp [h, entered]

namespace Manner

theorem answerText_entry (m : Manner) (line : String) :
    (m.answerText line).entry = if trim line = "" then none else some line := by
  unfold answerText
  by_cases hblank : trim line = ""
  · simp [hblank]
  · simp only [if_neg hblank]
    split
    · rfl
    · split <;> rfl

/-- **What goes to the history**, whatever the answer is. -/
theorem answer_entry (m : Manner) (bytes : Bytes) :
    (m.answer bytes).entry = enteredLine? bytes := by
  unfold answer enteredLine? lineText?
  cases hdecode : decode? bytes with
  | none => rfl
  | some text =>
    cases herase : eraseBackspaces? text.toList with
    | none => simp [herase]
    | some cs =>
      simp only [herase, answerText_entry, Option.bind_some, Option.map_some]
      by_cases hblank : trim (String.ofList cs) = "" <;> simp [hblank, Option.filter]

/-- **The history of a dialogue**: the lines that were entered, added one after the other. -/
theorem history_converse (m : Manner) (h : History) (lines : List Bytes) :
    (m.converse h lines).history = (entered lines).foldl History.add h := by
  induction lines generalizing h with
  | nil => rfl
  | cons line more ih =>
    have hadd : (enteredLine? line).elim h h.add =
        (enteredLine? line).toList.foldl History.add h := by
      cases enteredLine? line <;> rfl
    simp only [converse, (m.answer_spec line).1, m.answer_entry, entered_cons]
    by_cases hcut : cuts line = true
    · -- a line that breaks the session off is not text any more, so nothing is entered
      simp only [hcut, if_true, enteredLine?_of_cuts hcut]
      rfl
    · by_cases hstop : stops line = true
      · simp only [hcut, hstop, if_true, Bool.false_eq_true, if_false, hadd]
      · simp only [hcut, hstop, Bool.false_eq_true, if_false, ih, hadd, List.foldl_append]

end Manner

/-! ## Loading -/

/-- **The history file is not there, or it is loaded as a whole**, and this gives the entries
`found`. -/
def FindsHistory (s : Settings) (files : FileTree) (found : List String) : Prop :=
  (∃ cause, files.read s.historyFile = .error cause) ∧ found = [] ∨
    ∃ content, files.read s.historyFile = .ok content ∧
      ((History.empty s.historySize).load content).complete = true ∧
      ((History.empty s.historySize).load content).history.entries = found

/-- What is loaded is proper, and nothing in it is fresh. -/
theorem FindsHistory.proper {s : Settings} {files : FileTree} {found : List String}
    (h : FindsHistory s files found) : (History.mk s.historySize found 0).Proper := by
  rcases h with ⟨-, rfl⟩ | ⟨content, -, -, rfl⟩
  · exact History.proper_empty _
  · have hloaded := (History.proper_empty s.historySize).load content
    refine ⟨?_, hloaded.ne_empty, hloaded.isChain⟩
    exact hloaded.length_le.trans_eq (History.capacity_load _ _)

namespace Host

variable {host : Host} {log : Location} {found : List String}

/-- **What a session loads.** -/
theorem loading_of_findsHistory
    (hlog : host.startUp.1.place host.settings.historyFile ≠ .ok (.name log))
    (h : FindsHistory host.settings host.startUp.1 found) :
    (host.loading log).2 = ⟨host.settings.historySize, found, 0⟩ := by
  rcases h with ⟨⟨cause, hread⟩, rfl⟩ | ⟨content, hread, hcomplete, rfl⟩
  · rw [loading, readHistory, read_filesAtLoad hlog, hread]
    rfl
  · rw [loading, readHistory, read_filesAtLoad hlog, hread]
    exact History.history_load_of_complete hcomplete

/-! ## The session -/

/-- **What the history of a session holds** when the dialogue is over: the last of the entries that
were found and the lines that were entered. -/
theorem holds_dialogue (hsize : 1 ≤ host.settings.historySize)
    (hlog : host.startUp.1.place host.settings.historyFile ≠ .ok (.name log))
    (hfound : FindsHistory host.settings host.startUp.1 found) :
    (host.dialogue log).history.Holds found
      (withoutRepeats (found ++ entered (linesOf host.input))) := by
  rw [dialogue, Manner.history_converse, loading_of_findsHistory hlog hfound]
  exact History.holds_foldl_add hfound.proper hsize rfl fun _ => ne_empty_of_mem_entered

theorem proper_converse (hlog : host.startUp.1.place host.settings.historyFile ≠ .ok (.name log))
    (hfound : FindsHistory host.settings host.startUp.1 found) (lines : List Bytes) :
    (host.manner.converse (host.loading log).2 lines).history.Proper ∧
      (host.manner.converse (host.loading log).2 lines).history.capacity =
        host.settings.historySize := by
  rw [Manner.history_converse, loading_of_findsHistory hlog hfound, History.capacity_foldl_add]
  exact ⟨hfound.proper.foldl_add _, rfl⟩

/-- **What the next session finds**, if this one has saved its history. -/
theorem findsHistory_of_saved {next : Host} {log' : Location} {h : History} (hp : h.Proper)
    (hcapacity : 1 ≤ h.capacity) (hsize : h.capacity = next.settings.historySize)
    (hreturn : ∀ entry ∈ h.entries, entry.toList.getLast? ≠ some '\r')
    (hstart : next.startUp.2 = .ok log')
    (hread : next.files.read next.settings.historyFile = .ok (History.content h.entries)) :
    FindsHistory next.settings next.startUp.1 h.entries := by
  have hload := History.load_content hp hcapacity hreturn
  rw [hsize] at hload
  exact .inr ⟨_, read_startUp hstart hread, by rw [hload], by rw [hload]⟩

end Host

/-- **History across sessions.** Let a session start with a history size of at least 1, and let its
history file, which is not the log file, be missing or loaded as a whole to the entries `found`. Let
`all` be these and the lines that the session enters, without repeats. Then

* at every moment, while a file is loaded and after each line, the history is proper and its
  capacity is the size;
* at the end it holds the last lines of `all`;
* if no line was added, the history file is read as it was, and no file but the log file is another
  one than before the session;
* if one was added, the dialogue comes to its end and the save succeeds, a next session with the
  same settings loads exactly these lines, as long as none of them ends in a carriage return. -/
theorem history_across_sessions {host : Host} {log : Location} {found : List String}
    (hstart : host.startUp.2 = .ok log) (hsize : 1 ≤ host.settings.historySize)
    (hlog : host.startUp.1.place host.settings.historyFile ≠ .ok (.name log))
    (hfound : FindsHistory host.settings host.startUp.1 found) :
    let size := host.settings.historySize
    let proper := fun h : History => h.Proper ∧ h.capacity = size
    let all := withoutRepeats (found ++ entered (linesOf host.input))
    let kept := all.rtake size
    (∀ part, proper ((History.empty size).load part).history) ∧
    (∀ k, proper
      (host.manner.converse (host.loading log).2 ((linesOf host.input).take k)).history) ∧
    (host.dialogue log).history.entries = kept ∧
    (all = found →
      host.run.files.read host.settings.historyFile =
        host.startUp.1.read host.settings.historyFile ∧
      ∀ loc ≠ log, ∀ content, host.run.files.entryAt loc = some (.file content) ↔
        host.files.entryAt loc = some (.file content)) ∧
    (all ≠ found → (host.dialogue log).brokenOff = false → (host.saving log).2 = .ok () →
      (∀ entry ∈ kept, entry.toList.getLast? ≠ some '\r') →
      ∀ (next : Host) (log' : Location), next.files = host.run.files →
        next.settings = host.settings → next.startUp.2 = .ok log' →
        next.startUp.1.place next.settings.historyFile ≠ .ok (.name log') →
        FindsHistory next.settings next.startUp.1 kept ∧
          (next.loading log').2 = ⟨size, kept, 0⟩) := by
  intro size proper all kept
  have hholds := Host.holds_dialogue hsize hlog hfound
  obtain ⟨hproper, hcapacity⟩ :
      (host.dialogue log).history.Proper ∧ (host.dialogue log).history.capacity = size :=
    Host.proper_converse hlog hfound (linesOf host.input)
  have hpositive : 1 ≤ (host.dialogue log).history.capacity := hsize.trans_eq hcapacity.symm
  have hentries : (host.dialogue log).history.entries = kept := by
    rw [hholds.entries_eq, hcapacity]
  have hsave := hholds.save?_eq hpositive
  refine ⟨fun part => ⟨(History.proper_empty size).load part, History.capacity_load _ part⟩,
    fun k => Host.proper_converse hlog hfound _, hentries, fun hnone => ?_,
    fun hsome hgoes hsaved hreturn next log' hfiles hsettings hnext hlog' => ?_⟩
  · rw [if_pos hnone] at hsave
    exact ⟨Host.read_run_of_not_saved hstart hsave hlog,
      fun loc hloc content => Host.file_run_iff_of_not_saved hstart hsave hloc⟩
  · rw [if_neg hsome] at hsave
    have hread := Host.read_run_of_saved hstart hgoes hsave hsaved hlog
    rw [← hfiles, ← hsettings] at hread
    have hfinds : FindsHistory next.settings next.startUp.1 kept := by
      rw [← hentries] at hreturn ⊢
      exact Host.findsHistory_of_saved hproper hpositive (hcapacity.trans (by rw [hsettings]))
        hreturn hnext hread
    refine ⟨hfinds, ?_⟩
    rw [Host.loading_of_findsHistory hlog' hfinds, hsettings]

/-- A history of size 4 over a file without the mark, with a line that is entered twice, one that
looks like the mark, one with backslashes, and one after the one that stops. The next session finds
the file that the first one has left, and enters nothing new. -/
theorem history_across_two_sessions :
    let host : Host :=
      { inherited := [("HOME", "home"), ("TERM", "xterm"), ("MINISH_HISTORY", "past"),
          ("MINISH_HISTORY_SIZE", "4")]
        files := ⟨[(["past"], .file (encode "a\nb\n"))]⟩
        input := encode " b\n b\n \n#V2\n\\n\\\nquit\nls\n"
        date := "2000-01-01" }
    let logs : Location := ["home", ".config", "minish", "logs"]
    let left : FileTree :=
      ⟨[(logs ++ ["minish_2000-01-01.log"], .file []),
        (["past"], .file (encode "#V2\n b\n#V2\n\\\\n\\\\\nquit\n")), (logs, .directory),
        (["home", ".config", "minish"], .directory), (["home", ".config"], .directory),
        (["home"], .directory)]⟩
    let next : Host :=
      { host with files := left, input := encode "quit\n", date := "2000-01-02" }
    host.run.files = left ∧
      (next.loading (logs ++ ["minish_2000-01-02.log"])).2 =
        ⟨4, [" b", "#V2", "\\n\\", "quit"], 0⟩ ∧
      next.run.files.read ⟨"past"⟩ = left.read ⟨"past"⟩ := by
  intro host logs left next
  have hleft : host.run.files = left := by decide +kernel
  have hstart : host.startUp.2 = .ok (logs ++ ["minish_2000-01-01.log"]) := by decide +kernel
  have hnext : next.startUp.2 = .ok (logs ++ ["minish_2000-01-02.log"]) := by decide +kernel
  have hlog : next.startUp.1.place next.settings.historyFile ≠
      .ok (.name (logs ++ ["minish_2000-01-02.log"])) := by decide +kernel
  have hfound : FindsHistory host.settings host.startUp.1 ["a", "b"] :=
    .inr ⟨encode "a\nb\n", by decide +kernel, by decide +kernel, by decide +kernel⟩
  obtain ⟨-, -, -, -, hsaved⟩ := history_across_sessions hstart (by decide +kernel)
    (by decide +kernel) hfound
  obtain ⟨hfinds, hloading⟩ := hsaved (by decide +kernel) (by decide +kernel) (by decide +kernel)
    (by decide +kernel) next _ hleft.symm (by decide +kernel) hnext hlog
  obtain ⟨-, -, -, hnone, -⟩ := history_across_sessions hnext (by decide +kernel) hlog hfinds
  refine ⟨hleft, hloading.trans (by decide +kernel), ?_⟩
  have hpath : next.settings.historyFile = ⟨"past"⟩ := by decide +kernel
  have hstartUp : next.startUp.1.read ⟨"past"⟩ = left.read ⟨"past"⟩ := by decide +kernel
  have huntouched := (hnone (by decide +kernel)).1
  rwa [hpath, hstartUp] at huntouched

/-- **A backspace is not kept.** All three lines of this input are text with more than white space
in them. The history gets the first one without the backspace and the character before it, and the
second one, of which nothing is left, not at all; and so they stand in the history file. -/
theorem history_of_lines_with_backspaces :
    let host : Host :=
      { inherited := [("HOME", "home"), ("TERM", "xterm"), ("MINISH_HISTORY", "past")]
        files := ⟨[]⟩
        input := encode "ab\x08c\nx\x08\nexit\n"
        date := "2000-01-01" }
    let log : Location := ["home", ".config", "minish", "logs", "minish_2000-01-01.log"]
    let lines := ["ab\x08c", "x\x08", "exit"]
    host.startUp.2 = .ok log ∧ 1 ≤ host.settings.historySize ∧
      host.startUp.1.place host.settings.historyFile ≠ .ok (.name log) ∧
      FindsHistory host.settings host.startUp.1 [] ∧
      (linesOf host.input).map decode? = lines.map some ∧
      lines.map trim = lines ∧ lines.filter isStop = ["exit"] ∧
      (host.dialogue log).history.entries ≠ (withoutRepeats lines).rtake host.settings.historySize ∧
      (host.dialogue log).history.entries = ["ac", "exit"] ∧
      host.run.files.read host.settings.historyFile = .ok (encode "#V2\nac\nexit\n") := by
  intro host log lines
  refine ⟨?_, ?_, ?_, .inl ⟨⟨.notFound, ?_⟩, rfl⟩, ?_, ?_, ?_, ?_, ?_, ?_⟩ <;> decide +kernel

end LineShell
