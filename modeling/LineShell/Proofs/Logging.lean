import LineShell.Proofs.Stages

/-!
# What goes to the log file

A record goes two ways: to the standard error and to the log file. The standard error takes the
plain lines of a session in between, the log file takes nothing else. So what is in the log file is
what is seen of the records on the standard error, in the same order (`Host.logged`), after the
content that the file had before the session.

The log file is opened at the start and appended to at each stage. Only the saving of the history
writes another file, and this does not touch the log file unless it is the history file itself.

Results:
* `stderrOf_eq`, `recordsOf_seenAt`, `logOf_eq`: what the two ways take of a row of events.
* **`Host.log_of_run`**: the log file at the end of a session that starts.
-/

namespace LineShell

/-! ## The two ways of a record -/

namespace Event

/-- The record that an event is, if it is one. -/
def record? : Event → Option Record
  | record r => some r
  | _ => none

/-- Is an event seen on the standard error at the given level? -/
def isSeen (level : Level) : Event → Bool
  | out _ => false
  | err _ => true
  | record r => r.passes level

/-- The text of an event. -/
def text : Event → String
  | out text => text
  | err text => text
  | record r => r.line

end Event

/-- The records of a row of events, whatever the level. -/
def recordsOf (es : List Event) : List Record :=
  es.filterMap Event.record?

/-- The events that are seen on the standard error at the given level. -/
def seenAt (level : Level) (es : List Event) : List Event :=
  es.filter (Event.isSeen level)

theorem recordsOf_record_cons (r : Record) (es : List Event) :
    recordsOf (.record r :: es) = r :: recordsOf es := rfl

/-- **The standard error** is what is seen there, text after text. -/
theorem stderrOf_eq (level : Level) (es : List Event) :
    stderrOf level es = String.join ((seenAt level es).map Event.text) := by
  unfold stderrOf seenAt
  induction es with
  | nil => rfl
  | cons e es ih =>
    rw [List.map_cons, String.join_cons, ih, List.filter_cons]
    cases e with
    | out text => simp [Event.isSeen, Event.stderr]
    | err text => simp [Event.isSeen, Event.stderr, Event.text]
    | record r => cases h : r.passes level <;> simp [Event.isSeen, Event.stderr, Event.text, h]

/-- **The records that are seen** are those that pass. -/
theorem recordsOf_seenAt (level : Level) (es : List Event) :
    recordsOf (seenAt level es) = (recordsOf es).filter (Record.passes level) := by
  unfold recordsOf seenAt
  induction es with
  | nil => rfl
  | cons e es ih =>
    rw [List.filter_cons, List.filterMap_cons]
    cases e with
    | out text => simpa [Event.isSeen, Event.record?] using ih
    | err text => simpa [Event.isSeen, Event.record?, List.filterMap_cons] using ih
    | record r => cases h : r.passes level <;> simp [Event.isSeen, Event.record?, h, ih]

/-- **What goes to the log file** are the lines of the records that pass. -/
theorem logOf_eq (level : Level) (es : List Event) :
    logOf level es =
      encode (String.join (((recordsOf es).filter (Record.passes level)).map Record.line)) := by
  unfold logOf recordsOf
  congr 1
  induction es with
  | nil => rfl
  | cons e es ih =>
    rw [List.map_cons, String.join_cons, ih, List.filterMap_cons]
    cases e with
    | out text => simp [Event.record?, Event.logged]
    | err text => simp [Event.record?, Event.logged]
    | record r => cases h : r.passes level <;> simp [Event.record?, Event.logged, h]

theorem logOf_append (level : Level) (es fs : List Event) :
    logOf level (es ++ fs) = logOf level es ++ logOf level fs := by
  rw [logOf, List.map_append, String.join_append, encode_append, logOf, logOf]

/-! ## The log file -/

/-- The content of a file; nothing if there is none. -/
def FileTree.contentAt (t : FileTree) (loc : Location) : Bytes :=
  match t.entryAt loc with
  | some (.file content) => content
  | _ => []

namespace Host

variable {host : Host} {log : Location}

/-- The records of a session that pass, in their order. -/
def logged (host : Host) (log : Location) : List Record :=
  (recordsOf (host.events log)).filter (Record.passes host.settings.level)

/-- What is seen of a session on the standard error. -/
def seen (host : Host) (log : Location) : List Event :=
  seenAt host.settings.level (host.events log)

/-- The start opens the log file with the content that it had. -/
theorem log_of_startUp (hstart : host.startUp.2 = .ok log) :
    host.startUp.1.entryAt log = some (.file (host.files.contentAt log)) := by
  obtain ⟨files, hgrows, hopen⟩ := exists_of_startUp hstart
  unfold FileTree.contentAt
  obtain ⟨-, -, ⟨old, hseek, hfiles⟩ | ⟨hseek, hfiles⟩⟩ := FileTree.openForWriting_eq_ok hopen
  · obtain ⟨-, hold⟩ := FileTree.seek_eq_ok_iff.mp hseek
    rw [hfiles, hold, hgrows.file_iff.mp hold]
  · -- a location without an entry had none before either
    obtain ⟨-, hnone⟩ := FileTree.seek_eq_ok_iff.mp hseek
    have hbefore : host.files.entryAt log = none := by
      cases hentry : host.files.entryAt log with
      | none => rfl
      | some e => exact absurd (hgrows.entryAt hentry) (by simp [hnone])
    rw [hfiles, hbefore]
    exact FileTree.entryAt_insert_self _ (FileTree.isTop_eq_false (t := files) (by simp [hnone])) _

/-- The saving leaves the log file as it is. -/
theorem entryAt_saving (hlog : host.startUp.1.place host.settings.historyFile ≠ .ok (.name log)) :
    (host.saving log).1.entryAt log = (host.filesAtSave log).entryAt log := by
  unfold saving saveHistory
  split
  · rfl
  · split
    · rename_i loc files hopen
      have hne : log ≠ loc := by
        rintro rfl
        exact hlog (by rw [← place_filesAtSave, (FileTree.openForWriting_eq_ok hopen).1])
      rw [FileTree.write, FileTree.entryAt_insert_of_ne files hne,
        FileTree.entryAt_openForWriting_of_ne hopen hne]
    · rfl

/-- **The log file of a session that starts**: its former content, and the lines of all records that
pass. -/
theorem log_of_run (hstart : host.startUp.2 = .ok log)
    (hlog : host.startUp.1.place host.settings.historyFile ≠ .ok (.name log)) :
    host.run.files.entryAt log = some (.file (host.files.contentAt log ++
      encode (String.join ((host.logged log).map Record.line)))) := by
  have hsave : (host.filesAtSave log).entryAt log = some (.file (host.files.contentAt log ++
      logOf host.settings.level (openingEvents host.settings ++ host.middleEvents log))) := by
    rw [logOf_append, ← List.append_assoc]
    exact FileTree.entryAt_append_self
      (FileTree.entryAt_append_self (log_of_startUp hstart) _) _
  rw [files_run hstart, filesAtEnd, logged, ← logOf_eq, events]
  split
  · rw [hsave, List.append_nil]
  · rw [← entryAt_saving hlog] at hsave
    rw [FileTree.entryAt_append_self hsave, logOf_append _ (_ ++ _) (host.closingEvents log),
      List.append_assoc]

/-- **The standard error of a session that starts**, and the records on it. -/
theorem stderr_of_run (hstart : host.startUp.2 = .ok log) :
    host.run.stderr = String.join ((host.seen log).map Event.text) ∧
      recordsOf (host.seen log) = host.logged log := by
  rw [run_eq hstart]
  exact ⟨stderrOf_eq _ _, recordsOf_seenAt _ _⟩

end Host

end LineShell
