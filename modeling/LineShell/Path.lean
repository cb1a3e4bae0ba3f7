/-!
# Paths

A `Path` is a text, kept as it was given. What it names is decided by its pieces between slashes:
`steps` are the pieces that are not empty. `parents` are the directories on the way to it, and
`parent?` is the one that holds the last component, where single dots count only at the front of a
path. Both paths and their pieces have a greatest length, in bytes (`tooLong`, `stepTooLong`).

Models what the sessions use of the paths of the standard library: `join`, `parent` and
`components`.
-/

namespace LineShell

/-- The name of a file or directory, as it was given. -/
structure Path where
  text : String
  deriving DecidableEq, Repr

namespace Path

/-- The pieces of a text between slashes, empty ones included. -/
def splitSlash : List Char → List (List Char)
  | [] => [[]]
  | c :: cs =>
    if c = '/' then [] :: splitSlash cs
    else
      match splitSlash cs with
      | [] => [[c]]
      | piece :: pieces => (c :: piece) :: pieces

/-- The pieces of a path that are not empty, from the outermost directory on. -/
def steps (p : Path) : List String :=
  ((splitSlash p.text.toList).filter (· ≠ [])).map String.ofList

/-- Is the path longer than 4095 bytes? -/
def tooLong (p : Path) : Bool :=
  decide (4095 < p.text.utf8ByteSize)

/-- Is a step longer than 255 bytes? -/
def stepTooLong (step : String) : Bool :=
  decide (255 < step.utf8ByteSize)

/-- Does the path start at the root? -/
def isAbsolute (p : Path) : Bool :=
  p.text.toList.head? == some '/'

/-- Does the path end in a slash, which only directories may? -/
def endsInSlash (p : Path) : Bool :=
  p.text.toList.getLast? == some '/'

/-- A name inside a directory: a slash goes between them unless the directory is empty or ends in
one. -/
def join (dir : Path) (name : String) : Path :=
  if dir.text.isEmpty || dir.endsInSlash then ⟨dir.text ++ name⟩ else ⟨dir.text ++ "/" ++ name⟩

/-! ## Directories on the way

Here the pieces of a path are taken from its end, empty ones included. -/

/-- Is a piece a component, after the pieces `outer`? An empty piece is none, and a single dot is
one only at the front of a relative path. -/
def isComponent (piece : List Char) (outer : List (List Char)) : Bool :=
  piece ≠ [] && (piece ≠ ['.'] || outer = [])

/-- The pieces up to the last component. -/
def upToComponent : List (List Char) → List (List Char)
  | [] => []
  | piece :: outer => if isComponent piece outer then piece :: outer else upToComponent outer

/-- The path with the given pieces; an absolute one without pieces is the root. -/
def ofPieces (absolute : Bool) (pieces : List (List Char)) : Path :=
  if absolute ∧ pieces = [] then ⟨"/"⟩
  else ⟨String.ofList (['/'].intercalate pieces.reverse)⟩

/-- For each component the path of what stands before it, the last component first. -/
def parentsFrom (absolute : Bool) : List (List Char) → List Path
  | [] => []
  | piece :: outer =>
    if isComponent piece outer then
      ofPieces absolute (upToComponent outer) :: parentsFrom absolute outer
    else parentsFrom absolute outer

/-- The directories on the way to a path, the innermost first, the last one empty or the root. Each
one is a first part of the path, as it was given. -/
def parents (p : Path) : List Path :=
  parentsFrom p.isAbsolute (splitSlash p.text.toList).reverse

/-- The directory that holds the last component; nothing if there is no component. -/
def parent? (p : Path) : Option Path :=
  p.parents.head?

end Path

end LineShell
