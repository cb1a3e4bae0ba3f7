import LineShell.Text.Bytes

/-!
# The history of entered lines

A `History` holds the last lines that were entered, the oldest first. An empty line and one equal to
the line before it are not added, and beyond the capacity the oldest line goes. `fresh` counts the
lines that were added since the file was last loaded as a whole.

The file has a first line that marks the format, and a line for each entry, in which a backslash
and a line feed are escaped (`escapeEntry`). A file without the mark is read line by line as it
is. `History.load` reads a file and says what was wrong with it, `History.save?` gives the new
content, if the file is to be written at all.

Models the history of the line editor as `ReadlineManager` of the module `readline` sets it up: a
largest size, no entry like the one before it, and the file that `load_history` reads and
`save_history` writes.

Out of scope: other programs that use the file at the same time.

Headlines:
* **`entryOfLine?_escapeEntry`**: an entry that is escaped is read back.
* **`length_add_le`**: the capacity is kept.
-/

namespace LineShell

/-! ## Entries in a file -/

/-- The line that marks the format. -/
def historyMark : String := "#V2"

/-- An entry on one line. -/
def escapeEntry : List Char → List Char
  | [] => []
  | c :: cs =>
    if c = '\\' then '\\' :: '\\' :: escapeEntry cs
    else if c = '\n' then '\\' :: 'n' :: escapeEntry cs
    else c :: escapeEntry cs

/-- The entry on a line; nothing if a backslash stands before another character or at the end. -/
def entryOfLine? : List Char → Option (List Char)
  | [] => some []
  | '\\' :: '\\' :: cs => (entryOfLine? cs).map ('\\' :: ·)
  | '\\' :: 'n' :: cs => (entryOfLine? cs).map ('\n' :: ·)
  | c :: cs => if c = '\\' then none else (entryOfLine? cs).map (c :: ·)

/-- **An entry that is escaped** is read back. -/
theorem entryOfLine?_escapeEntry (cs : List Char) :
    entryOfLine? (escapeEntry cs) = some cs := by
  induction cs with
  | nil => rfl
  | cons c cs ih =>
    by_cases h : c = '\\'
    · simp [escapeEntry, h, entryOfLine?, ih]
    · by_cases hn : c = '\n'
      · simp [escapeEntry, hn, entryOfLine?, ih]
      · simp [escapeEntry, h, hn, entryOfLine?, ih]

/-! ## The history -/

/-- The lines that were entered, the oldest first. -/
structure History where
  capacity : Nat
  entries : List String
  fresh : Nat
  deriving DecidableEq, Repr

namespace History

/-- A history without lines. -/
def empty (capacity : Nat) : History :=
  ⟨capacity, [], 0⟩

/-- The history with a line at its end, if it is to be kept. -/
def add (h : History) (line : String) : History :=
  if h.capacity = 0 ∨ line = "" ∨ h.entries.getLast? = some line then h
  else
    let entries := (h.entries ++ [line]).drop (h.entries.length + 1 - h.capacity)
    ⟨h.capacity, entries, min (h.fresh + 1) entries.length⟩

@[simp] theorem capacity_add (h : History) (line : String) :
    (h.add line).capacity = h.capacity := by
  unfold add
  split <;> rfl

/-- **The capacity is kept.** -/
theorem length_add_le {h : History} (hc : h.entries.length ≤ h.capacity) (line : String) :
    (h.add line).entries.length ≤ h.capacity := by
  unfold add
  split
  · exact hc
  · simp only [List.length_drop, List.length_append, List.length_singleton]
    omega

/-! ## Loading -/

/-- How the loading of a file ends. -/
structure Loaded where
  history : History
  /-- Lines that are not escaped as they should be; they are kept as they are. -/
  badLines : List String
  /-- Was every line a text? The lines after one that is not are not read. -/
  complete : Bool

/-- The history with the lines of a file at its end, which may have been escaped. -/
def addLines (escaped : Bool) (h : History) : List Bytes → Loaded
  | [] => ⟨h, [], true⟩
  | bytes :: more =>
    match decode? bytes with
    | none => ⟨h, [], false⟩
    | some line =>
      match if escaped then entryOfLine? line.toList else some line.toList with
      | some entry => addLines escaped (h.add (String.ofList entry)) more
      | none =>
        let rest := addLines escaped (h.add line) more
        { rest with badLines := line :: rest.badLines }

/-- The history with the lines of a file at its end. They are no longer fresh if all could be
read. -/
def load (h : History) (content : Bytes) : Loaded :=
  let loaded : Loaded :=
    match linesOf content with
    | [] => ⟨h, [], true⟩
    | first :: more =>
      if decode? first = some historyMark then addLines true h more
      else addLines false h (first :: more)
  if loaded.complete then { loaded with history := { loaded.history with fresh := 0 } } else loaded

/-! ## Saving -/

/-- The content of a file that holds the entries. -/
def content (entries : List String) : Bytes :=
  encode (historyMark ++ "\n") ++
    entries.flatMap fun e => encode (String.ofList (escapeEntry e.toList) ++ "\n")

/-- The content to save; nothing if there is no fresh entry. -/
def save? (h : History) : Option Bytes :=
  if h.entries = [] ∨ h.fresh = 0 then none else some (content h.entries)

end History

end LineShell
