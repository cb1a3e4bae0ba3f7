import LineShell.Path
import LineShell.Text.Bytes

/-!
# Trees of files

A `FileTree` holds directories and files by their `Location`, the row of names that leads to an
entry from the current directory. A location above it starts with double dots, and one that is
reached from the root starts with a slash; the current directory, those above it and the root are
always there. A path is walked step by step to its location: a single dot stays, double dots go up.
A name that is too long stops the walk at its step (`seek`), a path that is too long before its
first step (`place`).

The operations are those that a session needs: `find`, `read`, `makeDirectory`, `makeDirectories`,
`openForWriting`, `write`, `append`. Each one fails with a `FileError` for its cause.

Models the calls on files that `Config.new`, `init_logger` and `ReadlineManager` make: to create a
directory and those on the way to it, to open a file for appending, and to read and write one.

Out of scope: permissions, links, devices, and a disk that is full.

Headlines:
* **`entryAt_insert_self`**, **`entryAt_insert_of_ne`**: an insertion is seen at its location and
  nowhere else.
-/

namespace LineShell

/-! ## Causes of failure -/

/-- Why an operation on files fails. -/
inductive FileError where
  | notFound
  | alreadyExists
  | notADirectory
  | isADirectory
  | nameTooLong
  deriving DecidableEq, Repr

namespace FileError

/-- The number of the cause. -/
def code : FileError → Nat
  | notFound => 2
  | alreadyExists => 17
  | notADirectory => 20
  | isADirectory => 21
  | nameTooLong => 36

def kindName : FileError → String
  | notFound => "NotFound"
  | alreadyExists => "AlreadyExists"
  | notADirectory => "NotADirectory"
  | isADirectory => "IsADirectory"
  | nameTooLong => "InvalidFilename"

def message : FileError → String
  | notFound => "No such file or directory"
  | alreadyExists => "File exists"
  | notADirectory => "Not a directory"
  | isADirectory => "Is a directory"
  | nameTooLong => "File name too long"

/-- The cause in a sentence. -/
def sentence (e : FileError) : String :=
  e.message ++ " (os error " ++ toString e.code ++ ")"

/-- The cause with its number, its kind and its message. -/
def debug (e : FileError) : String :=
  "Os \x7b code: " ++ toString e.code ++ ", kind: " ++ e.kindName ++ ", message: \"" ++
    e.message ++ "\" \x7d"

end FileError

/-! ## Entries -/

/-- What can stand at a location. -/
inductive Entry where
  | directory
  | file (content : Bytes)
  deriving DecidableEq, Repr

/-- The names that lead to an entry from the current directory, which has none itself. -/
abbrev Location := List String

namespace Location

/-- The current directory, those above it, and the root. -/
def isTop (loc : Location) : Bool :=
  loc.all fun name => name = ".." || name = "/"

/-- The directory that holds a location; the root holds itself. -/
def up (loc : Location) : Location :=
  if loc = ["/"] then loc else if loc.isTop then loc ++ [".."] else loc.dropLast

/-- Where a path starts. -/
def start (p : Path) : Location :=
  if p.isAbsolute then ["/"] else []

end Location

/-- Entries by location; those that are always there are left out. -/
structure FileTree where
  entries : List (Location × Entry)
  deriving DecidableEq, Repr

namespace FileTree

/-- What stands at a location. -/
def entryAt (t : FileTree) (loc : Location) : Option Entry :=
  if loc.isTop then some .directory else t.entries.lookup loc

/-- The tree with an entry at a location, in place of the one there. -/
def insert (t : FileTree) (loc : Location) (e : Entry) : FileTree :=
  ⟨(loc, e) :: t.entries.filter (·.1 ≠ loc)⟩

theorem entryAt_insert_self (t : FileTree) {loc : Location} (h : loc.isTop = false) (e : Entry) :
    (t.insert loc e).entryAt loc = some e := by
  simp [entryAt, insert, h]

theorem entryAt_insert_of_ne (t : FileTree) {loc loc' : Location} (h : loc' ≠ loc) (e : Entry) :
    (t.insert loc e).entryAt loc' = t.entryAt loc' := by
  have hl (l : List (Location × Entry)) :
      (l.filter (·.1 ≠ loc)).lookup loc' = l.lookup loc' := by
    induction l with
    | nil => rfl
    | cons x xs ih =>
      obtain ⟨k, v⟩ := x
      by_cases hk : k = loc
      · have hb : (loc' == k) = false := by simp [hk, h]
        rw [List.filter_cons_of_neg (by simp [hk]), ih, List.lookup_cons, hb]
      · rw [List.filter_cons_of_pos (by simp [hk]), List.lookup_cons, List.lookup_cons, ih]
  unfold entryAt insert
  split
  · rfl
  · have : (loc' == loc) = false := by simp [h]
    simp [List.lookup_cons, this, ← hl t.entries]

/-! ## Walking -/

/-- What stands at a location; nothing can be sought under a name that is too long. -/
def seek (t : FileTree) (loc : Location) : Except FileError (Option Entry) :=
  if loc.getLast?.any Path.stepTooLong then .error .nameTooLong else .ok (t.entryAt loc)

/-- The location that the steps lead to from `here`, each one through a directory. -/
def walk (t : FileTree) (here : Location) : List String → Except FileError Location
  | [] => .ok here
  | step :: more =>
    if step = "." then t.walk here more
    else if step = ".." then t.walk here.up more
    else
      match t.seek (here ++ [step]) with
      | .error e => .error e
      | .ok none => .error .notFound
      | .ok (some (.file _)) => .error .notADirectory
      | .ok (some .directory) => t.walk (here ++ [step]) more

/-- Where the last step of a path is taken. -/
inductive Place where
  /-- The path has no step of its own there: it is the root, or ends in dots. -/
  | directory
  /-- A name in a directory that exists. -/
  | name (loc : Location)
  deriving DecidableEq, Repr

/-- The place that a path names; the directories before its last step have to exist. A path that is
too long names none, whatever is there. -/
def place (t : FileTree) (p : Path) : Except FileError Place :=
  if p.tooLong then .error .nameTooLong
  else
    match p.steps.getLast? with
    | none => if p.isAbsolute then .ok .directory else .error .notFound
    | some last =>
      match t.walk (.start p) p.steps.dropLast with
      | .error e => .error e
      | .ok here =>
        if last = "." ∨ last = ".." then .ok .directory else .ok (.name (here ++ [last]))

/-! ## Operations -/

/-- What a path names. A path that ends in a slash names no file. -/
def find (t : FileTree) (p : Path) : Except FileError Entry :=
  match t.place p with
  | .error e => .error e
  | .ok .directory => .ok .directory
  | .ok (.name loc) =>
    match t.seek loc with
    | .error e => .error e
    | .ok none => .error .notFound
    | .ok (some .directory) => .ok .directory
    | .ok (some (.file content)) =>
      if p.endsInSlash then .error .notADirectory else .ok (.file content)

def isDirectory (t : FileTree) (p : Path) : Bool :=
  match t.find p with
  | .ok .directory => true
  | _ => false

/-- The content of a file. -/
def read (t : FileTree) (p : Path) : Except FileError Bytes :=
  match t.find p with
  | .error e => .error e
  | .ok .directory => .error .isADirectory
  | .ok (.file content) => .ok content

/-- A new directory; there must be nothing at its path. -/
def makeDirectory (t : FileTree) (p : Path) : Except FileError FileTree :=
  match t.place p with
  | .error e => .error e
  | .ok .directory => .error .alreadyExists
  | .ok (.name loc) =>
    match t.seek loc with
    | .error e => .error e
    | .ok (some _) => .error .alreadyExists
    | .ok none => .ok (t.insert loc .directory)

/-- The first of the paths as a directory, and before it the second one if it is missing, and so
on. The directories that could be made stay, even if one cannot. -/
def makeAll (t : FileTree) : List Path → FileTree × Except FileError Unit
  | [] => (t, .error .notFound)
  | p :: outer =>
    if p.text = "" then (t, .ok ())
    else
      match t.makeDirectory p with
      | .ok t => (t, .ok ())
      | .error .notFound =>
        match t.makeAll outer with
        | (t, .error e) => (t, .error e)
        | (t, .ok ()) =>
          match t.makeDirectory p with
          | .ok t => (t, .ok ())
          | .error e => (t, if t.isDirectory p then .ok () else .error e)
      | .error e => (t, if t.isDirectory p then .ok () else .error e)

/-- A directory with all the directories on the way to it. -/
def makeDirectories (t : FileTree) (p : Path) : FileTree × Except FileError Unit :=
  t.makeAll (p :: p.parents)

/-- The location of a file that may be written, and the tree with that file, which is empty if it
is new. -/
def openForWriting (t : FileTree) (p : Path) : Except FileError (Location × FileTree) :=
  match t.place p with
  | .error e => .error e
  | .ok .directory => .error .isADirectory
  | .ok (.name loc) =>
    if p.endsInSlash then .error .isADirectory
    else
      match t.seek loc with
      | .error e => .error e
      | .ok (some .directory) => .error .isADirectory
      | .ok (some (.file _)) => .ok (loc, t)
      | .ok none => .ok (loc, t.insert loc (.file []))

/-- The tree with new content in a file. -/
def write (t : FileTree) (loc : Location) (content : Bytes) : FileTree :=
  t.insert loc (.file content)

/-- The tree with more content at the end of a file. -/
def append (t : FileTree) (loc : Location) (content : Bytes) : FileTree :=
  match t.entryAt loc with
  | some (.file old) => t.write loc (old ++ content)
  | _ => t

end FileTree

end LineShell
