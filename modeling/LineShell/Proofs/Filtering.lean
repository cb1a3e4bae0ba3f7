import LineShell.Proofs.Logging

/-!
# The level of the log filters, and does nothing else

Two sessions that differ in the level alone (`Host.SameButLevel`) do the same and say the same. At
every stage they are compared: the same history is loaded, the same dialogue is led, the same
content is saved, and the files are the same but for the log file (`FileTree.SameBut`). The log file
is never read, as long as it is not the history file.

So the rows of events are the same, up to the first record, which names the level. What is seen of
the records at a level is a part of what is seen at a level that lets more pass. The records of the
line editor are warnings, and they are seen at every level.

Results:
* `Host.SameButLevel.startUp`, …, `Host.SameButLevel.filesAtEnd`: the two sessions, stage by stage.
* `Host.erase_levelRecord_logged`: the records that are seen besides the one that names the level.
* `Host.level_of_lineEditor`: the line editor has nothing but warnings.
* **`level_only_filters`**: what the level does to a session.
-/

namespace LineShell

/-- The variable that sets the level. -/
def levelVariable : String := "MINISH_LOG_LEVEL"

theorem Variables.value?_cons_of_ne {name key : String} (hname : '=' ∉ name.toList)
    (hkey : '=' ∉ key.toList) (hne : name ≠ key) (value : String) (vs : Variables) :
    value? ((key, value) :: vs) name = vs.value? name := by
  have hnone : valueUnder? name (key, value) = none := by
    unfold valueUnder?
    split
    · rfl
    · rw [behind?_of_not_mem hname hkey, if_neg fun h => hne (String.toList_inj.mp h)]
      rfl
  rw [value?, List.findSome?_cons, hnone, value?]

/-! ## What passes -/

/-- **A level that lets less pass** lets a part of the records of the shell pass, and all those of
the line editor. -/
theorem filter_passes_of_le {l l' : Level} (hle : l.rank ≤ l'.rank) (rs : List Record) :
    rs.filter (Record.passes l) =
      (rs.filter (Record.passes l')).filter fun r =>
        r.origin = .lineEditor ∨ r.level.rank ≤ l.rank := by
  rw [List.filter_filter]
  refine List.filter_congr fun r _ => Bool.eq_iff_iff.mpr ?_
  cases horigin : r.origin with
  | shell => simpa [Record.passes, horigin] using fun hl => Nat.le_trans hl hle
  | lineEditor => simp [Record.passes, horigin]

/-- The records of the line editor pass at every level alike. -/
theorem filter_passes_lineEditor (l l' : Level) (rs : List Record) :
    (rs.filter (Record.passes l)).filter (·.origin = .lineEditor) =
      (rs.filter (Record.passes l')).filter (·.origin = .lineEditor) := by
  rw [List.filter_filter, List.filter_filter]
  refine List.filter_congr fun r _ => Bool.eq_iff_iff.mpr ?_
  cases horigin : r.origin with
  | shell => simp
  | lineEditor => simp [Record.passes, horigin]

namespace Host

/-- **The hosts differ in the level variable at most.** A name of a variable has no equals sign.
There is no file of variables, so that the inherited ones are all. -/
structure SameButLevel (a b : Host) : Prop where
  value : ∀ name, '=' ∉ name.toList → name ≠ levelVariable →
    b.inherited.value? name = a.inherited.value? name
  files : b.files = a.files
  input : b.input = a.input
  date : b.date = a.date
  noVariableFile : ∀ content, a.files.read variableFile ≠ .ok content

/-- The record that names the level, the first one of a session. -/
def levelRecord (host : Host) : Record :=
  .debug ("日志级别设置为: " ++ host.settings.level.name)

variable {a b host : Host} {log : Location}

theorem loadedVariables_of_noVariableFile
    (h : ∀ content, host.files.read variableFile ≠ .ok content) :
    host.loadedVariables = ⟨host.inherited, false⟩ := by
  unfold loadedVariables
  cases hread : host.files.read variableFile with
  | error e => rfl
  | ok content => exact absurd hread (h content)

namespace SameButLevel

/-! ## The two sessions, stage by stage -/

/-- There is nothing to set in either session. -/
theorem loadedVariables (h : a.SameButLevel b) :
    a.loadedVariables = ⟨a.inherited, false⟩ ∧ b.loadedVariables = ⟨b.inherited, false⟩ :=
  ⟨loadedVariables_of_noVariableFile h.noVariableFile,
    loadedVariables_of_noVariableFile (h.files ▸ h.noVariableFile)⟩

theorem environment_value (h : a.SameButLevel b) {name : String} (hname : '=' ∉ name.toList)
    (hne : name ≠ levelVariable) :
    b.environment.value? name = a.environment.value? name := by
  rw [environment, environment, h.loadedVariables.1, h.loadedVariables.2, h.value name hname hne]

/-- The settings are the same but for the level. -/
theorem settings (h : a.SameButLevel b) :
    ∃ logLevel, b.settings = { a.settings with logLevel } := by
  unfold Host.settings Variables.settings Settings.ofLookup
  simp (disch := decide) only [h.environment_value]
  exact ⟨_, rfl⟩

theorem manner (h : a.SameButLevel b) : b.manner = a.manner := by
  obtain ⟨logLevel, hsettings⟩ := h.settings
  unfold Host.settings at hsettings
  unfold Host.manner Variables.manner Variables.palette Variables.hasSimpleTerminal
  simp (disch := decide) only [h.environment_value, hsettings]

/-- **The start is the same.** -/
theorem startUp (h : a.SameButLevel b) : b.startUp = a.startUp := by
  obtain ⟨logLevel, hsettings⟩ := h.settings
  unfold Host.startUp makeHistoryDirectory Settings.logFile
  simp only [h.loadedVariables, hsettings, h.files, h.date]

theorem historyFile (h : a.SameButLevel b) : b.settings.historyFile = a.settings.historyFile := by
  obtain ⟨logLevel, hsettings⟩ := h.settings
  rw [hsettings]

theorem filesAtLoad (h : a.SameButLevel b) (log : Location) :
    (a.filesAtLoad log).SameBut log (b.filesAtLoad log) := by
  unfold Host.filesAtLoad
  rw [h.startUp]
  exact ((FileTree.sameBut_append _ log _).symm).trans (FileTree.sameBut_append _ log _)

theorem filesAtSave (h : a.SameButLevel b) (log : Location) :
    (a.filesAtSave log).SameBut log (b.filesAtSave log) :=
  (h.filesAtLoad log).append _ _

section Stages

variable (h : a.SameButLevel b)
  (hlog : a.startUp.1.place a.settings.historyFile ≠ .ok (.name log))

include h hlog

/-- **The same history is loaded**, and the same is said of it. -/
theorem loading : b.loading log = a.loading log := by
  obtain ⟨logLevel, hsettings⟩ := h.settings
  have hread : (b.filesAtLoad log).read a.settings.historyFile =
      (a.filesAtLoad log).read a.settings.historyFile :=
    (h.filesAtLoad log).read (by rwa [Host.filesAtLoad, FileTree.place_append])
  unfold Host.loading readHistory
  rw [hsettings]
  dsimp only
  rw [hread]
  rfl

theorem dialogue : b.dialogue log = a.dialogue log := by
  rw [Host.dialogue, h.manner, h.loading hlog, h.input, Host.dialogue]

theorem middleEvents : b.middleEvents log = a.middleEvents log := by
  obtain ⟨logLevel, hsettings⟩ := h.settings
  rw [Host.middleEvents, h.loading hlog, h.manner, h.dialogue hlog, hsettings]
  rfl

/-- **The same is saved**, with the same success. -/
theorem saving :
    (a.saving log).1.SameBut log (b.saving log).1 ∧ (b.saving log).2 = (a.saving log).2 := by
  unfold Host.saving saveHistory
  rw [h.dialogue hlog, h.historyFile]
  cases (a.dialogue log).history.save? with
  | none => exact ⟨h.filesAtSave log, rfl⟩
  | some content =>
    dsimp only
    rcases (h.filesAtSave log).openForWriting a.settings.historyFile with
      ⟨e, hopen, hopen'⟩ | ⟨loc, files, files', hopen, hopen', hfiles⟩
    · rw [hopen, hopen']
      exact ⟨h.filesAtSave log, rfl⟩
    · rw [hopen, hopen']
      exact ⟨hfiles.insert loc _, rfl⟩

theorem closingEvents : b.closingEvents log = a.closingEvents log := by
  obtain ⟨logLevel, hsettings⟩ := h.settings
  rw [Host.closingEvents, (h.saving hlog).2, h.manner, hsettings]
  rfl

/-- **The files at the end** are the same but for the log file. -/
theorem filesAtEnd : (a.filesAtEnd log).SameBut log (b.filesAtEnd log) := by
  unfold Host.filesAtEnd
  rw [h.dialogue hlog]
  split
  · exact h.filesAtSave log
  · exact (h.saving hlog).1.append _ _

/-- **The same is said** after the record that names the level. -/
theorem events : ∃ es, a.events log = .record a.levelRecord :: es ∧
    b.events log = .record b.levelRecord :: es := by
  obtain ⟨logLevel, hsettings⟩ := h.settings
  refine ⟨_, rfl, ?_⟩
  rw [Host.events, h.middleEvents hlog, h.dialogue hlog, h.closingEvents hlog, levelRecord,
    hsettings]
  rfl

end Stages

end SameButLevel

/-! ## The records -/

/-- **The records that are seen** besides the one that names the level. -/
theorem erase_levelRecord_logged {es : List Event}
    (h : host.events log = .record host.levelRecord :: es) :
    (host.logged log).erase host.levelRecord =
      (recordsOf es).filter (Record.passes host.settings.level) := by
  rw [logged, h, recordsOf_record_cons]
  cases hpass : host.levelRecord.passes host.settings.level with
  | true => rw [List.filter_cons_of_pos hpass, List.erase_cons_head]
  | false =>
    rw [List.filter_cons_of_neg (ne_true_of_eq_false hpass), List.erase_of_not_mem]
    intro hmem
    exact ne_true_of_eq_false hpass (List.mem_filter.mp hmem).2

theorem filter_lineEditor_logged {es : List Event}
    (h : host.events log = .record host.levelRecord :: es) :
    (host.logged log).filter (·.origin = .lineEditor) =
      ((recordsOf es).filter (Record.passes host.settings.level)).filter
        (·.origin = .lineEditor) := by
  have hshell : host.levelRecord.origin ≠ .lineEditor := by simp [levelRecord, Record.debug]
  rw [logged, h, recordsOf_record_cons, List.filter_filter, List.filter_filter,
    List.filter_cons_of_neg (by simp [hshell])]

end Host

/-! ## The line editor -/

/-- If the line editor writes this event, it is a warning. -/
def Event.EditorWarns : Event → Prop
  | record r => r.origin = .lineEditor → r.level = .warn
  | _ => True

namespace Manner

theorem editorWarns_answer (m : Manner) (bytes : Bytes) :
    ∀ e ∈ (m.answer bytes).events, e.EditorWarns := by
  have htokens (line : String) : ∀ e ∈ m.tokenEvents line, e.EditorWarns := by
    unfold tokenEvents
    split
    · simp [Event.outLine, Event.EditorWarns]
    · simp
  have hparse (line : String) : ∀ e ∈ m.parseEvents line, e.EditorWarns := by
    unfold parseEvents
    dsimp only
    split <;> simp [Event.EditorWarns, Event.outLine, complaint, Event.errLine, Record.debug]
  have htext (line : String) : ∀ e ∈ (m.answerText line).events, e.EditorWarns := by
    unfold answerText
    dsimp only
    split_ifs
    · simp
    · simp
    · simp [Event.outLine, Event.EditorWarns]
    · exact List.forall_mem_append.mpr ⟨htokens line, hparse line⟩
  unfold answer
  split
  · split
    · exact htext _
    · simp [Event.errLine, Event.EditorWarns]
  · simp [Event.EditorWarns, complaint, Event.errLine, Record.error]

theorem editorWarns_converse (m : Manner) (h : History) (lines : List Bytes) :
    ∀ e ∈ (m.converse h lines).events, e.EditorWarns := by
  have hprompt : ∀ e ∈ m.promptEvents, e.EditorWarns := by
    unfold promptEvents
    split <;> simp [Event.EditorWarns]
  induction lines generalizing h with
  | nil =>
    refine List.forall_mem_append.mpr ⟨hprompt, ?_⟩
    simp [endEvents, Event.EditorWarns, Event.outLine, Record.warn]
  | cons line more ih =>
    have hanswer := m.editorWarns_answer line
    unfold converse
    dsimp only
    split
    · exact List.forall_mem_append.mpr ⟨hprompt, hanswer⟩
    · exact List.forall_mem_append.mpr ⟨hprompt, hanswer⟩
    · exact List.forall_mem_append.mpr ⟨hprompt, List.forall_mem_append.mpr ⟨hanswer, ih _⟩⟩

end Manner

theorem editorWarns_loadHistory (s : Settings) (found : Except String Bytes) :
    ∀ e ∈ (loadHistory s found).1, e.EditorWarns := by
  unfold loadHistory
  split
  · simp [loadFailure, Event.EditorWarns, Record.warn]
  · refine List.forall_mem_append.mpr ⟨?_, ?_⟩
    · simp [badLineEvent, Event.EditorWarns]
    · split <;> simp [loadFailure, Event.EditorWarns, Record.debug, Record.warn]

/-- **The line editor has nothing but warnings** in a session. -/
theorem Host.level_of_lineEditor (host : Host) (log : Location) {r : Record}
    (hr : r ∈ recordsOf (host.events log)) (horigin : r.origin = .lineEditor) :
    r.level = .warn := by
  have hopening : ∀ e ∈ openingEvents host.settings, e.EditorWarns := by
    simp [openingEvents, Event.EditorWarns, Record.debug]
  have hgreeting : ∀ e ∈ greetingEvents host.settings host.manner, e.EditorWarns := by
    simp [greetingEvents, Event.EditorWarns, Event.outLine, Record.debug]
  have hmiddle : ∀ e ∈ host.middleEvents log, e.EditorWarns :=
    List.forall_mem_append.mpr ⟨List.forall_mem_append.mpr
      ⟨editorWarns_loadHistory _ _, hgreeting⟩, Manner.editorWarns_converse _ _ _⟩
  have hclosing : ∀ e ∈ host.closingEvents log, e.EditorWarns := by
    unfold Host.closingEvents saveEvent farewellEvents
    split <;> simp [Event.EditorWarns, Event.outLine, Record.debug, Record.error]
  have hall : ∀ e ∈ host.events log, e.EditorWarns := by
    refine List.forall_mem_append.mpr ⟨List.forall_mem_append.mpr ⟨hopening, hmiddle⟩, ?_⟩
    split
    · simp
    · exact hclosing
  obtain ⟨e, he, hrecord⟩ := List.mem_filterMap.mp hr
  cases e with
  | out text => cases hrecord
  | err text => cases hrecord
  | record r' =>
    obtain rfl : r' = r := Option.some.inj hrecord
    exact hall _ he horigin

/-- **The level only filters.** Let two hosts differ in the level variable at most, without a file
of variables. Let the first one's session start, and let its history file not be the log file. Then

* the other session starts with the same log file; both have the same status and the same standard
  output, and they leave the same files, the history file among them, but for the log file;
* if the first level lets at most as much pass as the second one, then the records that are seen of
  the first session are those of the second one, in their order, that the line editor has written or
  that are at the first level or above it. The record that names the level is left out on both
  sides;
* the records of the line editor are the same in both, whatever the levels, and they are warnings;
* in each session the log file has the content that it had before, and then the lines of exactly the
  records that are seen on the standard error. -/
theorem level_only_filters {a b : Host} {log : Location} (h : a.SameButLevel b)
    (hstart : a.startUp.2 = .ok log)
    (hlog : a.startUp.1.place a.settings.historyFile ≠ .ok (.name log)) :
    (b.startUp.2 = .ok log ∧ b.run.exitStatus = a.run.exitStatus ∧ b.run.stdout = a.run.stdout ∧
      b.settings.historyFile = a.settings.historyFile ∧
      b.run.files.read b.settings.historyFile = a.run.files.read a.settings.historyFile ∧
      ∀ loc ≠ log, b.run.files.entryAt loc = a.run.files.entryAt loc) ∧
    (a.settings.level.rank ≤ b.settings.level.rank →
      (a.logged log).erase a.levelRecord =
        ((b.logged log).erase b.levelRecord).filter fun r =>
          r.origin = .lineEditor ∨ r.level.rank ≤ a.settings.level.rank) ∧
    ((a.logged log).filter (·.origin = .lineEditor) =
        (b.logged log).filter (·.origin = .lineEditor) ∧
      ∀ r ∈ a.logged log, r.origin = .lineEditor → r.level = .warn) ∧
    ∀ host ∈ [a, b],
      host.run.stderr = String.join ((host.seen log).map Event.text) ∧
      recordsOf (host.seen log) = host.logged log ∧
      host.run.files.entryAt log = some (.file (host.files.contentAt log ++
        encode (String.join ((host.logged log).map Record.line)))) := by
  obtain ⟨es, ha, hb⟩ := h.events hlog
  have hstart' : b.startUp.2 = .ok log := by rw [h.startUp, hstart]
  have hlog' : b.startUp.1.place b.settings.historyFile ≠ .ok (.name log) := by
    rwa [h.startUp, h.historyFile]
  have hfiles : a.run.files.SameBut log b.run.files := by
    rw [Host.files_run hstart, Host.files_run hstart']
    exact h.filesAtEnd hlog
  refine ⟨⟨hstart', ?_, ?_, h.historyFile, ?_, fun loc => hfiles.entryAt_of_ne⟩,
    fun hle => ?_, ⟨?_, fun r hr => ?_⟩, fun host hhost => ?_⟩
  · rw [Host.exitStatus_run hstart, Host.exitStatus_run hstart', h.input]
  · rw [Host.run_eq hstart, Host.run_eq hstart', ha, hb]
    simp only [stdoutOf_cons, Event.stdout_record]
  · rw [h.historyFile]
    refine hfiles.read ?_
    rwa [Host.files_run hstart, Host.place_filesAtEnd]
  · rw [Host.erase_levelRecord_logged ha, Host.erase_levelRecord_logged hb]
    exact filter_passes_of_le hle _
  · rw [Host.filter_lineEditor_logged ha, Host.filter_lineEditor_logged hb]
    exact filter_passes_lineEditor _ _ _
  · exact a.level_of_lineEditor log (List.mem_filter.mp hr).1
  · have hboth : host.startUp.2 = .ok log ∧
        host.startUp.1.place host.settings.historyFile ≠ .ok (.name log) := by
      simp only [List.mem_cons, List.not_mem_nil, or_false] at hhost
      rcases hhost with rfl | rfl
      · exact ⟨hstart, hlog⟩
      · exact ⟨hstart', hlog'⟩
    obtain ⟨hstderr, hseen⟩ := Host.stderr_of_run hboth.1
    exact ⟨hstderr, hseen, Host.log_of_run hboth.1 hboth.2⟩

/-- Nothing but the line editor's warning goes to the log when the level is off, after what the file
had before. The other records come in when all levels pass, and the one that names the level with
them. -/
theorem level_only_filters_from_off :
    let vs : Variables := [("HOME", "home"), ("TERM", "xterm"), ("MINISH_HISTORY", "past"),
      ("MINISH_LOG_DIR", "logs")]
    let off : Host :=
      { inherited := (levelVariable, "off") :: vs
        files := ⟨[(["past"], .file (encode "#V2\n\\x\n")), (["logs"], .directory),
          (["logs", "minish_2000-01-01.log"], .file (encode "before\n"))]⟩
        input := encode "|\nls\n"
        date := "2000-01-01" }
    let trace : Host := { off with inherited := (levelVariable, "trace") :: vs }
    let log : Location := ["logs", "minish_2000-01-01.log"]
    let warning : Record := ⟨.lineEditor, .warn, "bad escaped line: \\x"⟩
    trace.run.stdout = off.run.stdout ∧
      off.run.files.entryAt log =
        some (.file (encode "before\n[PID][WARN] bad escaped line: \\x\n")) ∧
      (trace.logged log).length = 12 ∧
      (trace.logged log).filter (·.origin = .lineEditor) = [warning] ∧
      ((trace.logged log).erase trace.levelRecord).filter
        (fun r => r.origin = .lineEditor ∨ r.level.rank ≤ 0) = [warning] := by
  intro vs off trace log warning
  have hsame : off.SameButLevel trace := by
    refine ⟨fun name hname hne => ?_, rfl, rfl, rfl, fun content => ?_⟩
    · have hkey : '=' ∉ levelVariable.toList := by decide
      exact (Variables.value?_cons_of_ne hname hkey hne _ vs).trans
        (Variables.value?_cons_of_ne hname hkey hne _ vs).symm
    · have hread : off.files.read variableFile = .error .notFound := by decide +kernel
      simp [hread]
  have hstart : off.startUp.2 = .ok log := by decide +kernel
  obtain ⟨⟨-, -, hstdout, -⟩, hfilter, ⟨hwarnings, -⟩, hlogs⟩ :=
    level_only_filters hsame hstart (by decide +kernel)
  obtain ⟨-, -, hlog⟩ := hlogs off List.mem_cons_self
  have hlogged : off.logged log = [warning] := by decide +kernel
  have hlevel : off.settings.level = .off := by decide +kernel
  rw [hlogged] at hlog hwarnings
  have hfilter := hfilter (by rw [hlevel]; exact Nat.zero_le _)
  rw [hlogged, hlevel] at hfilter
  exact ⟨hstdout, hlog.trans (by decide +kernel), by decide +kernel,
    hwarnings.symm.trans (by decide +kernel), hfilter.symm.trans (by decide +kernel)⟩

end LineShell
