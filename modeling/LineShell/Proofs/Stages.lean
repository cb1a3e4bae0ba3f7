import LineShell.Proofs.Files
import LineShell.Proofs.Transcript

/-!
# The stages of a session

A session that starts passes through the same stages whatever it is told: the files it has when it
loads the history (`filesAtLoad`), what it loads (`loading`), the dialogue (`dialogue`), the files
it has then (`filesAtSave`), and what it saves (`saving`). `run_eq` puts them together, so that what
is proved of a stage is proved of the session.

Between the start and the saving only the log file changes. So the history file is read at the start
as it is read at any other stage, unless it is the log file itself (`read_filesAtSave`).

Results:
* `startEnds`: a start ends at the variables, at one of its three steps, or with the log file open.
* **`startUp_cases`**: a start adds directories on the way to those that it makes, and at its end
  the log file if there is none.
* `file_startUp_iff`, `read_startUp`: files other than the log file are as they were.
* **`run_eq`**: the outcome of a session, stage by stage.
* `file_filesAtSave_iff`, `file_run_iff_of_not_saved`: without a save no file but the log file has
  changed.
-/

namespace LineShell

namespace Host

variable {host : Host} {log loc : Location} {p : Path} {content : Bytes}

/-! ## The start -/

/-- **The variables of the file can be set**: no value has a NUL character in it. -/
def VariablesSet (host : Host) : Prop :=
  host.loadedVariables.brokenOff = false

instance (host : Host) : Decidable host.VariablesSet :=
  inferInstanceAs (Decidable (host.loadedVariables.brokenOff = false))

/-- The second step of a start, after the first one. -/
def makeLogDirectory (host : Host) : FileTree × Except FileError Unit :=
  host.makeHistoryDirectory.1.makeDirectories host.settings.logDir

/-- The third step of a start, after the first two. -/
def openLogFile (host : Host) : Except FileError (Location × FileTree) :=
  host.makeLogDirectory.1.openForWriting (host.settings.logFile host.date)

/-- How a start ends: at the variables, at one of its three steps, or with the log file open. -/
inductive StartEnds (host : Host) : FileTree × Except StartFailure Location → Prop where
  | unsettable (hset : ¬ host.VariablesSet) : StartEnds host (host.files, .error .unsettable)
  | historyDirectory {files : FileTree} {cause : FileError} (hset : host.VariablesSet)
      (hfails : host.makeHistoryDirectory = (files, .error cause)) :
      StartEnds host (files, .error (.files cause))
  | logDirectory {files : FileTree} {cause : FileError} (hset : host.VariablesSet)
      (hhistory : host.makeHistoryDirectory.2 = .ok ())
      (hfails : host.makeLogDirectory = (files, .error cause)) :
      StartEnds host (files, .error (.files cause))
  | logFile {files : FileTree} {cause : FileError} (hset : host.VariablesSet)
      (hhistory : host.makeHistoryDirectory.2 = .ok ())
      (hlogs : host.makeLogDirectory = (files, .ok ())) (hfails : host.openLogFile = .error cause) :
      StartEnds host (files, .error (.files cause))
  | opened {files : FileTree} {log : Location} (hset : host.VariablesSet)
      (hhistory : host.makeHistoryDirectory.2 = .ok ()) (hlogs : host.makeLogDirectory.2 = .ok ())
      (hopen : host.openLogFile = .ok (log, files)) : StartEnds host (files, .ok log)

/-- **Every start ends in one of these ways.** -/
theorem startEnds (host : Host) : host.StartEnds host.startUp := by
  unfold startUp
  split
  · rename_i hbroken
    exact .unsettable (by simp [VariablesSet, hbroken])
  · rename_i hgoes
    have hset : host.VariablesSet := eq_false_of_ne_true hgoes
    rcases hhistory : host.makeHistoryDirectory with ⟨files, cause | _⟩
    · exact .historyDirectory hset hhistory
    · have hlogs : host.makeLogDirectory = files.makeDirectories host.settings.logDir := by
        rw [makeLogDirectory, hhistory]
      rcases hmade : files.makeDirectories host.settings.logDir with ⟨files', cause | _⟩
      · simp only [hmade]
        exact .logDirectory hset (by rw [hhistory]) (hlogs.trans hmade)
      · have hopens : host.openLogFile =
            files'.openForWriting (host.settings.logFile host.date) := by
          rw [openLogFile, hlogs, hmade]
        rcases hopen : files'.openForWriting (host.settings.logFile host.date) with
          cause | ⟨log, files''⟩
        · simp only [hmade, hopen]
          exact .logFile hset (by rw [hhistory]) (hlogs.trans hmade) (hopens.trans hopen)
        · simp only [hmade, hopen]
          exact .opened hset (by rw [hhistory]) (by rw [hlogs, hmade]) (hopens.trans hopen)

/-! ### What it does to the files -/

/-- The paths of the directories that a start makes, and of those on the way to them. -/
def directoryPaths (host : Host) : List Path :=
  (host.settings.historyFile.parent?.toList ++ [host.settings.logDir]).flatMap fun dir =>
    dir :: dir.parents

theorem growsAlong_makeHistoryDirectory (host : Host) :
    host.files.GrowsAlong host.directoryPaths host.makeHistoryDirectory.1 := by
  unfold makeHistoryDirectory directoryPaths
  cases host.settings.historyFile.parent? with
  | none => exact .refl _ _
  | some dir =>
    exact (host.files.growsAlong_makeDirectories dir).mono (List.subset_append_left _ _)

theorem growsAlong_makeLogDirectory (host : Host) :
    host.files.GrowsAlong host.directoryPaths host.makeLogDirectory.1 := by
  refine host.growsAlong_makeHistoryDirectory.trans
    ((FileTree.growsAlong_makeDirectories _ host.settings.logDir).mono ?_)
  rw [directoryPaths, List.flatMap_append, List.flatMap_singleton]
  exact List.subset_append_right _ _

/-- **What a start does to the files.** If it fails, there are new directories at most. Otherwise
the log file is opened after that. -/
theorem startUp_cases (host : Host) :
    (∃ failure, host.startUp.2 = .error failure ∧
      host.files.GrowsAlong host.directoryPaths host.startUp.1) ∨
    ∃ log files, host.startUp.2 = .ok log ∧ host.files.GrowsAlong host.directoryPaths files ∧
      files.openForWriting (host.settings.logFile host.date) = .ok (log, host.startUp.1) := by
  have hends := host.startEnds
  have hhistory := host.growsAlong_makeHistoryDirectory
  have hlogs := host.growsAlong_makeLogDirectory
  generalize host.startUp = result at hends ⊢
  cases hends with
  | unsettable _ => exact .inl ⟨_, rfl, .refl _ _⟩
  | historyDirectory _ hfails => exact .inl ⟨_, rfl, by rwa [hfails] at hhistory⟩
  | logDirectory _ _ hfails => exact .inl ⟨_, rfl, by rwa [hfails] at hlogs⟩
  | logFile _ _ hmade _ => exact .inl ⟨_, rfl, by rwa [hmade] at hlogs⟩
  | opened _ _ _ hopen => exact .inr ⟨_, _, rfl, hlogs, hopen⟩

theorem exists_of_startUp (h : host.startUp.2 = .ok log) :
    ∃ files, host.files.Grows files ∧
      files.openForWriting (host.settings.logFile host.date) = .ok (log, host.startUp.1) := by
  rcases host.startUp_cases with ⟨failure, hfails, -⟩ | ⟨log', files, hlog, hgrows, hopen⟩
  · simp [h] at hfails
  · obtain rfl : log = log' := Except.ok.inj (h.symm.trans hlog)
    exact ⟨files, hgrows.grows, hopen⟩

/-- A start leaves every file but the log file as it was. -/
theorem file_startUp_iff (h : host.startUp.2 = .ok log) (hloc : loc ≠ log) :
    host.startUp.1.entryAt loc = some (.file content) ↔
      host.files.entryAt loc = some (.file content) := by
  obtain ⟨files, hgrows, hopen⟩ := exists_of_startUp h
  rw [FileTree.entryAt_openForWriting_of_ne hopen hloc, hgrows.file_iff]

/-- **What could be read before the start** can be read after it. -/
theorem read_startUp (h : host.startUp.2 = .ok log) (hread : host.files.read p = .ok content) :
    host.startUp.1.read p = .ok content := by
  obtain ⟨files, hgrows, hopen⟩ := exists_of_startUp h
  exact FileTree.read_mono (fun _ => FileTree.entryAt_of_openForWriting hopen)
    (fun _ _ => FileTree.entryAt_of_openForWriting hopen) (hgrows.read hread)

/-! ## The stages -/

/-- The files when the history is loaded. -/
def filesAtLoad (host : Host) (log : Location) : FileTree :=
  host.startUp.1.append log (logOf host.settings.level (openingEvents host.settings))

/-- What is said of the history file, and the history that is loaded. -/
def loading (host : Host) (log : Location) : List Event × History :=
  loadHistory host.settings (readHistory host.settings (host.filesAtLoad log))

/-- The dialogue. -/
def dialogue (host : Host) (log : Location) : Dialogue :=
  host.manner.converse (host.loading log).2 (linesOf host.input)

/-- What is said from the loading of the history to the end of the dialogue. -/
def middleEvents (host : Host) (log : Location) : List Event :=
  (host.loading log).1 ++ greetingEvents host.settings host.manner ++ (host.dialogue log).events

/-- The files when the history is saved. -/
def filesAtSave (host : Host) (log : Location) : FileTree :=
  (host.filesAtLoad log).append log (logOf host.settings.level (host.middleEvents log))

/-- The files with the history saved, and whether that succeeds. -/
def saving (host : Host) (log : Location) : FileTree × Except String Unit :=
  saveHistory host.settings (host.dialogue log).history (host.filesAtSave log)

/-- What is said after the dialogue, if it was not broken off. -/
def closingEvents (host : Host) (log : Location) : List Event :=
  saveEvent (host.saving log).2 :: farewellEvents host.settings host.manner

/-- All that is said. -/
def events (host : Host) (log : Location) : List Event :=
  openingEvents host.settings ++ host.middleEvents log ++
    if (host.dialogue log).brokenOff then [] else host.closingEvents log

/-- The files at the end. -/
def filesAtEnd (host : Host) (log : Location) : FileTree :=
  if (host.dialogue log).brokenOff then host.filesAtSave log
  else (host.saving log).1.append log (logOf host.settings.level (host.closingEvents log))

/-- **A session that starts is its stages.** -/
theorem run_eq (h : host.startUp.2 = .ok log) :
    host.run =
      { exitStatus := if (host.dialogue log).brokenOff then breakStatus else 0
        stdout := stdoutOf (host.events log)
        stderr := stderrOf host.settings.level (host.events log)
        files := host.filesAtEnd log } := by
  rw [run_of_startUp h, events, filesAtEnd]
  cases hbreak : (host.dialogue log).brokenOff with
  | true =>
    simp only [dialogue, loading, filesAtLoad] at hbreak
    simp only [runFrom, hbreak, if_true]
    rfl
  | false =>
    simp only [dialogue, loading, filesAtLoad] at hbreak
    simp only [runFrom, hbreak, Bool.false_eq_true, if_false]
    rfl

theorem files_run (h : host.startUp.2 = .ok log) : host.run.files = host.filesAtEnd log := by
  rw [run_eq h]

/-! ## Files from stage to stage -/

theorem read_filesAtLoad (hp : host.startUp.1.place p ≠ .ok (.name log)) :
    (host.filesAtLoad log).read p = host.startUp.1.read p :=
  FileTree.read_append _ hp _

theorem place_filesAtSave (host : Host) (log : Location) (p : Path) :
    (host.filesAtSave log).place p = host.startUp.1.place p := by
  rw [filesAtSave, FileTree.place_append, filesAtLoad, FileTree.place_append]

/-- Up to the saving a file that is not the log file is read as after the start. -/
theorem read_filesAtSave (hp : host.startUp.1.place p ≠ .ok (.name log)) :
    (host.filesAtSave log).read p = host.startUp.1.read p := by
  have hp' : (host.filesAtLoad log).place p ≠ .ok (.name log) := by
    rwa [filesAtLoad, FileTree.place_append]
  rw [filesAtSave, FileTree.read_append _ hp', read_filesAtLoad hp]

/-- Up to the saving no file but the log file has changed. -/
theorem file_filesAtSave_iff (h : host.startUp.2 = .ok log) (hloc : loc ≠ log) :
    (host.filesAtSave log).entryAt loc = some (.file content) ↔
      host.files.entryAt loc = some (.file content) := by
  rw [filesAtSave, FileTree.entryAt_append_of_ne _ hloc, filesAtLoad,
    FileTree.entryAt_append_of_ne _ hloc, file_startUp_iff h hloc]

/-! ## What the session leaves -/

/-- A session that breaks off leaves a file that is not the log file as it was. -/
theorem read_run_of_brokenOff (hstart : host.startUp.2 = .ok log)
    (hbreak : (host.dialogue log).brokenOff = true)
    (hp : host.startUp.1.place p ≠ .ok (.name log)) :
    host.run.files.read p = host.startUp.1.read p := by
  rw [files_run hstart, filesAtEnd, hbreak, if_pos rfl, read_filesAtSave hp]

/-- A history without fresh entries is not saved. -/
theorem saving_of_save?_eq_none (h : (host.dialogue log).history.save? = none) :
    host.saving log = (host.filesAtSave log, .ok ()) := by
  rw [saving, saveHistory, h]

/-- **Without a save the files are those at its stage**, but for the log file. -/
theorem files_run_of_not_saved (hstart : host.startUp.2 = .ok log)
    (h : (host.dialogue log).history.save? = none) :
    ∃ bytes, host.run.files = (host.filesAtSave log).append log bytes ∨
      host.run.files = host.filesAtSave log := by
  rw [files_run hstart, filesAtEnd, saving_of_save?_eq_none h]
  split
  · exact ⟨[], .inr rfl⟩
  · exact ⟨_, .inl rfl⟩

theorem read_run_of_not_saved (hstart : host.startUp.2 = .ok log)
    (h : (host.dialogue log).history.save? = none)
    (hp : host.startUp.1.place p ≠ .ok (.name log)) :
    host.run.files.read p = host.startUp.1.read p := by
  obtain ⟨bytes, hfiles | hfiles⟩ := files_run_of_not_saved hstart h
  · rw [hfiles, FileTree.read_append _ (by rwa [place_filesAtSave]), read_filesAtSave hp]
  · rw [hfiles, read_filesAtSave hp]

theorem file_run_iff_of_not_saved (hstart : host.startUp.2 = .ok log)
    (h : (host.dialogue log).history.save? = none) (hloc : loc ≠ log) :
    host.run.files.entryAt loc = some (.file content) ↔
      host.files.entryAt loc = some (.file content) := by
  obtain ⟨bytes, hfiles | hfiles⟩ := files_run_of_not_saved hstart h
  · rw [hfiles, FileTree.entryAt_append_of_ne _ hloc, file_filesAtSave_iff hstart hloc]
  · rw [hfiles, file_filesAtSave_iff hstart hloc]

/-- A history file that could be read is saved. -/
theorem saving_of_read (hlog : host.startUp.1.place host.settings.historyFile ≠ .ok (.name log))
    (hread : host.startUp.1.read host.settings.historyFile = .ok content) :
    (host.saving log).2 = .ok () := by
  rw [← read_filesAtSave hlog] at hread
  obtain ⟨loc, hopen⟩ := FileTree.openForWriting_of_read hread
  unfold saving saveHistory
  split
  · rfl
  · simp [hopen]

/-- The history file stands on the same way after the saving. -/
theorem place_saving (host : Host) (log : Location) :
    (host.saving log).1.place host.settings.historyFile =
      host.startUp.1.place host.settings.historyFile := by
  unfold saving saveHistory
  split
  · exact place_filesAtSave _ _ _
  · split
    · rename_i hopen
      rw [FileTree.place_write hopen, ← (FileTree.openForWriting_eq_ok hopen).1, place_filesAtSave]
    · exact place_filesAtSave _ _ _

/-- **What is saved** is in the history file. -/
theorem read_saving (hcontent : (host.dialogue log).history.save? = some content)
    (hsaved : (host.saving log).2 = .ok ()) :
    (host.saving log).1.read host.settings.historyFile = .ok content := by
  unfold saving saveHistory at hsaved ⊢
  rw [hcontent] at hsaved ⊢
  cases hopen : (host.filesAtSave log).openForWriting host.settings.historyFile with
  | error cause => simp [hopen] at hsaved
  | ok opened => exact FileTree.read_write hopen content

/-- **A save that succeeds** leaves its content in the history file: the closing records go to
another one. -/
theorem read_run_of_saved (hstart : host.startUp.2 = .ok log)
    (hgoes : (host.dialogue log).brokenOff = false)
    (hcontent : (host.dialogue log).history.save? = some content)
    (hsaved : (host.saving log).2 = .ok ())
    (hp : host.startUp.1.place host.settings.historyFile ≠ .ok (.name log)) :
    host.run.files.read host.settings.historyFile = .ok content := by
  rw [files_run hstart, filesAtEnd, hgoes, if_neg Bool.false_ne_true,
    FileTree.read_append _ (by rwa [place_saving]), read_saving hcontent hsaved]

/-- The history file stands on the same way from the start to the end. -/
theorem place_filesAtEnd (host : Host) (log : Location) :
    (host.filesAtEnd log).place host.settings.historyFile =
      host.startUp.1.place host.settings.historyFile := by
  unfold filesAtEnd
  split
  · exact place_filesAtSave _ _ _
  · rw [FileTree.place_append, place_saving]

end Host

end LineShell
