import LineShell.Text.ClusterClass

/-!
# Clusters and erasing

What a reader takes for one character can be a row of code points: a letter with its marks, a
syllable, a flag, a family of pictographs. `clusters` cuts a text into such rows (the extended
grapheme clusters of Unicode). `eraseBackspaces?` lets every backspace take away the cluster before
it, as a terminal does on a line that is being typed. What a backspace takes is remembered as a
number of bytes, in one byte. Clusters of 256 bytes and more are therefore taken away in part only,
and it can happen that this would end inside a character; then there is no result.

Models how the line editor takes backspaces out of a line when the standard input is no terminal.

Headlines:
* **`clusters_flatten`**: the clusters of a text, in order, are the text.
* **`TypedLine.erase?_push`**: a backspace takes away the cluster before it, if that is shorter than
  256 bytes.
* **`eraseBackspaces?_of_short`**: a text whose clusters are all shorter than that is left with the
  clusters that no backspace takes away.
-/

namespace LineShell

open ClusterClass

/-! ## Classes -/

/-- Line breaks and controls, which no cluster shares with another character. -/
def standsAlone (c : Char) : Bool :=
  c == '\r' || c == '\n' || control.contains c

def zeroWidthJoiner : Char := '\u200d'

/-- Marks without width, which continue every cluster. -/
def isExtender (c : Char) : Bool :=
  c == zeroWidthJoiner || extend.contains c

/-- The number of the syllable in the block of composed Hangul syllables. -/
def syllableNumber? (c : Char) : Option Nat :=
  if 0xAC00 ≤ c.toNat ∧ c.toNat ≤ 0xD7A3 then some (c.toNat - 0xAC00) else none

/-- Composed syllables without a trailing consonant; there are 28 syllables for each. -/
def isOpenSyllable (c : Char) : Bool :=
  (syllableNumber? c).any (· % 28 == 0)

def isClosedSyllable (c : Char) : Bool :=
  (syllableNumber? c).any (· % 28 != 0)

/-! ## Rules

In each rule `before` is the cluster so far, its last character first. -/

/-- Parts of a Hangul syllable in their order: leading consonants, vowels, trailing consonants. -/
def joinsSyllable (p c : Char) : Bool :=
  leading.contains p &&
      (leading.contains c || vowel.contains c || isOpenSyllable c || isClosedSyllable c) ||
    (isOpenSyllable p || vowel.contains p) && (vowel.contains c || trailing.contains c) ||
    (isClosedSyllable p || trailing.contains p) && trailing.contains c

/-- A consonant after a consonant with its marks, a linker among them. -/
def joinsConjunct (before : List Char) (c : Char) : Bool :=
  let isMark := fun d => isExtender d && d != '\u200c'
  consonant.contains c && (before.takeWhile isMark).any linker.contains &&
    (before.dropWhile isMark).head?.any consonant.contains

/-- A pictograph after a pictograph with its marks and a joiner. -/
def joinsPictograph (before : List Char) (c : Char) : Bool :=
  pictographic.contains c &&
    match before with
    | p :: ps =>
      p == zeroWidthJoiner && (ps.dropWhile extend.contains).head?.any pictographic.contains
    | [] => false

/-- The second letter of a flag. -/
def joinsFlag (before : List Char) (c : Char) : Bool :=
  regionalIndicator.contains c && (before.takeWhile regionalIndicator.contains).length % 2 == 1

/-- Does `c` continue the cluster? -/
def continues (before : List Char) (c : Char) : Bool :=
  match before with
  | [] => false
  | p :: _ =>
    if p == '\r' && c == '\n' then true
    else if standsAlone p || standsAlone c then false
    else
      isExtender c || spacingMark.contains c || prepend.contains p || joinsSyllable p c ||
        joinsConjunct before c || joinsPictograph before c || joinsFlag before c

/-! ## Clusters -/

/-- The clusters of a text after the unfinished cluster `before`, its last character first. -/
def clustersFrom (before : List Char) : List Char → List (List Char)
  | [] => [before.reverse]
  | c :: cs =>
    if continues before c then clustersFrom (c :: before) cs
    else before.reverse :: clustersFrom [c] cs

/-- The clusters of a text, in order. -/
def clusters : List Char → List (List Char)
  | [] => []
  | c :: cs => clustersFrom [c] cs

theorem clustersFrom_flatten (before cs : List Char) :
    (clustersFrom before cs).flatten = before.reverse ++ cs := by
  induction cs generalizing before with
  | nil => simp [clustersFrom]
  | cons c cs ih =>
    unfold clustersFrom
    split <;> simp [ih]

/-- **The clusters of a text**, in order, are the text. -/
theorem clusters_flatten (cs : List Char) : (clusters cs).flatten = cs := by
  cases cs with
  | nil => rfl
  | cons c cs => simp [clusters, clustersFrom_flatten]

/-! ## Erasing -/

def backspace : Char := '\x08'

/-- The number of bytes of a text. -/
def byteLength : List Char → Nat
  | [] => 0
  | c :: cs => c.utf8Size + byteLength cs

theorem byteLength_append (cs ds : List Char) :
    byteLength (cs ++ ds) = byteLength cs + byteLength ds := by
  induction cs with
  | nil => rw [List.nil_append, byteLength, Nat.zero_add]
  | cons c cs ih => rw [List.cons_append, byteLength, byteLength, ih, Nat.add_assoc]

theorem byteLength_reverse (cs : List Char) : byteLength cs.reverse = byteLength cs := by
  induction cs with
  | nil => rfl
  | cons c cs ih =>
    rw [List.reverse_cons, byteLength_append, ih, byteLength, byteLength, byteLength, Nat.add_zero,
      Nat.add_comm]

/-- The characters, the last one first, without the last `n` bytes; nothing if that would cut a
character in two. -/
def dropBytes? : Nat → List Char → Option (List Char)
  | 0, cs => some cs
  | _ + 1, [] => none
  | n + 1, c :: cs => if c.utf8Size ≤ n + 1 then dropBytes? (n + 1 - c.utf8Size) cs else none

theorem dropBytes?_byteLength (cs rest : List Char) :
    dropBytes? (byteLength cs) (cs ++ rest) = some rest := by
  induction cs with
  | nil => cases rest <;> rfl
  | cons c cs ih =>
    have hc := c.utf8Size_pos
    obtain ⟨n, hn⟩ : ∃ n, byteLength (c :: cs) = n + 1 :=
      ⟨byteLength (c :: cs) - 1, by simp [byteLength]; omega⟩
    have hle : c.utf8Size ≤ n + 1 := by rw [← hn]; simp [byteLength]
    have hsub : n + 1 - c.utf8Size = byteLength cs := by rw [← hn]; simp [byteLength]
    rw [hn, List.cons_append, dropBytes?, if_pos hle, hsub, ih]

/-- A line that is being typed. -/
structure TypedLine where
  /-- The characters, the last one first. -/
  reversed : List Char
  /-- For each cluster that a backspace can still take away, the last one first, the number of bytes
  that it takes. A byte holds that number, so it is the length of the cluster modulo 256. -/
  weights : List UInt8

namespace TypedLine

def empty : TypedLine := ⟨[], []⟩

/-- The line with a cluster at its end. -/
def push (t : TypedLine) (cluster : List Char) : TypedLine :=
  ⟨cluster.reverse ++ t.reversed, UInt8.ofNat (byteLength cluster) :: t.weights⟩

/-- The line after a backspace; nothing if the number of bytes that it takes ends inside a
character. -/
def erase? (t : TypedLine) : Option TypedLine :=
  match t.weights with
  | [] => some t
  | w :: ws => (dropBytes? w.toNat t.reversed).map (⟨·, ws⟩)

/-- **A backspace takes away the cluster before it**, if that is shorter than 256 bytes. -/
theorem erase?_push (t : TypedLine) {cluster : List Char} (h : byteLength cluster < 256) :
    (t.push cluster).erase? = some t := by
  have hw : (UInt8.ofNat (byteLength cluster)).toNat = byteLength cluster.reverse := by
    rw [byteLength_reverse]
    simpa using Nat.mod_eq_of_lt h
  simp only [push, erase?, hw, dropBytes?_byteLength, Option.map_some]

/-- The line after more clusters, the backspaces among them taking effect. -/
def enter? (t : TypedLine) : List (List Char) → Option TypedLine
  | [] => some t
  | more :: rest =>
    if more = [backspace] then
      match t.erase? with
      | some t => t.enter? rest
      | none => none
    else (t.push more).enter? rest

end TypedLine

/-- The text that is left when every backspace has taken away the cluster before it, if there is
one, and itself; nothing if one of them would cut a character in two. -/
def eraseBackspaces? (cs : List Char) : Option (List Char) :=
  if backspace ∈ cs then (TypedLine.empty.enter? (clusters cs)).map (·.reversed.reverse)
  else some cs

theorem eraseBackspaces?_of_not_mem {cs : List Char} (h : backspace ∉ cs) :
    eraseBackspaces? cs = some cs := by
  simp [eraseBackspaces?, h]

/-! ### Short clusters -/

/-- The clusters that are left after `rest`, the last one first: a backspace takes away the last one
of those before it. -/
def leftOf (before : List (List Char)) : List (List Char) → List (List Char)
  | [] => before
  | more :: rest =>
    if more = [backspace] then leftOf before.tail rest else leftOf (more :: before) rest

theorem leftOf_of_not_mem {rest : List (List Char)} (h : [backspace] ∉ rest)
    (before : List (List Char)) : leftOf before rest = rest.reverse ++ before := by
  induction rest generalizing before with
  | nil => rfl
  | cons more rest ih =>
    rw [List.mem_cons, not_or] at h
    rw [leftOf, if_neg (Ne.symm h.1), ih h.2]
    simp

namespace TypedLine

/-- The line that was typed cluster by cluster, the last one first. -/
def ofClusters : List (List Char) → TypedLine
  | [] => empty
  | cluster :: before => (ofClusters before).push cluster

theorem reverse_reversed_ofClusters (before : List (List Char)) :
    (ofClusters before).reversed.reverse = before.reverse.flatten := by
  induction before with
  | nil => rfl
  | cons cluster before ih => simp [ofClusters, push, ih]

theorem erase?_ofClusters {before : List (List Char)}
    (h : ∀ cluster ∈ before, byteLength cluster < 256) :
    (ofClusters before).erase? = some (ofClusters before.tail) := by
  cases before with
  | nil => rfl
  | cons cluster before => exact erase?_push _ (h cluster List.mem_cons_self)

theorem enter?_ofClusters {before rest : List (List Char)}
    (hbefore : ∀ cluster ∈ before, byteLength cluster < 256)
    (hrest : ∀ cluster ∈ rest, byteLength cluster < 256) :
    (ofClusters before).enter? rest = some (ofClusters (leftOf before rest)) := by
  induction rest generalizing before with
  | nil => rfl
  | cons more rest ih =>
    rw [List.forall_mem_cons] at hrest
    rw [enter?, leftOf]
    split
    · simp only [erase?_ofClusters hbefore]
      exact ih (fun cluster h => hbefore cluster (List.mem_of_mem_tail h)) hrest.2
    · exact ih (List.forall_mem_cons.mpr ⟨hrest.1, hbefore⟩) hrest.2

end TypedLine

/-- **Short clusters are taken away whole**, and what no backspace takes away is left. -/
theorem eraseBackspaces?_of_short {cs : List Char}
    (h : ∀ cluster ∈ clusters cs, byteLength cluster < 256) :
    eraseBackspaces? cs = some (leftOf [] (clusters cs)).reverse.flatten := by
  by_cases hmem : backspace ∈ cs
  · have henter : TypedLine.empty.enter? (clusters cs) =
        some (.ofClusters (leftOf [] (clusters cs))) :=
      @TypedLine.enter?_ofClusters [] _ (by simp) h
    rw [eraseBackspaces?, if_pos hmem, henter, Option.map_some,
      TypedLine.reverse_reversed_ofClusters]
  · have hnone : [backspace] ∉ clusters cs := by
      intro hcluster
      rw [← clusters_flatten cs, List.mem_flatten] at hmem
      exact hmem ⟨_, hcluster, List.mem_singleton_self _⟩
    rw [eraseBackspaces?_of_not_mem hmem, leftOf_of_not_mem hnone]
    simp [clusters_flatten]

end LineShell
