import LineShell.Proofs.Stages

/-!
# Files whose variables can be set

A value with a NUL character breaks a session off before its start. Where does such a character come
from? Reading a value adds nothing but line breaks (`readValue`): all other characters stand in the
line, or in the value of a variable that is named there. So it takes a NUL in the file, or in a
variable that is set before.

The invariant over the lines is that no variable holds a NUL (`NulFree`). One line keeps it
(`setNew?_of_nulFree`), and induction gives it of a whole file.

Results:
* `VariableFile.not_mem_readLine`: what a line assigns has no character from elsewhere.
* **`Variables.loadFile_of_nulFree`**: a file without a NUL is loaded to its end.
* **`Host.variablesSet_of_no_nul`**: a session whose file of variables has none is not broken off
  before its start.
-/

namespace LineShell

namespace VariableFile

variable {valueOf : List Char → List Char} {c : Char} {cs key rest : List Char}

/-- A value holds characters of the text, of the values of variables, and line breaks. -/
theorem not_mem_readValue (hvalueOf : ∀ name, c ∉ valueOf name) (hc : c ≠ '\n') {mode : Mode}
    {value : List Char} (hcs : c ∉ cs) (h : readValue valueOf mode cs = some value) :
    c ∉ value := by
  fun_induction readValue valueOf mode cs generalizing value <;> grind [Option.map_eq_some_iff]

theorem subset_of_readKey (h : readKey cs = some (key, rest)) : key ⊆ cs ∧ rest ⊆ cs := by
  unfold readKey at h
  split at h
  · obtain ⟨rfl, rfl⟩ := Prod.mk.inj (Option.some.inj h)
    exact ⟨(List.takeWhile_prefix _).subset,
      ((List.dropWhile_suffix _).trans (List.dropWhile_suffix _)).subset⟩
  · cases h

theorem subset_of_afterEquals (h : afterEquals cs = some rest) : rest ⊆ cs := by
  unfold afterEquals at h
  split at h
  · obtain rfl := Option.some.inj h
    exact ((List.dropWhile_suffix _).trans (List.suffix_cons _ _)).subset
  · cases h

/-- The key of a line and what stands for its value are parts of the line. -/
theorem subset_of_readAssignment (h : readAssignment cs = some (key, rest)) :
    key ⊆ cs ∧ rest ⊆ cs := by
  unfold readAssignment at h
  cases hword : readKey cs with
  | none => simp [hword] at h
  | some word =>
    obtain ⟨hkey, hbehind⟩ := subset_of_readKey hword
    cases hvalue : afterEquals word.2 with
    | some value =>
      simp only [hword, hvalue, Option.some.injEq, Prod.mk.injEq] at h
      obtain ⟨rfl, rfl⟩ := h
      exact ⟨hkey, List.Subset.trans (subset_of_afterEquals hvalue) hbehind⟩
    | none =>
      -- the word is `export`, and what follows it is read once more
      simp only [hword, hvalue] at h
      split at h
      · cases hnext : readKey word.2 with
        | none => simp [hnext] at h
        | some next =>
          obtain ⟨hkey', hbehind'⟩ := subset_of_readKey hnext
          simp only [hnext, Option.map_eq_some_iff, Prod.mk.injEq] at h
          obtain ⟨value, hvalue', rfl, rfl⟩ := h
          exact ⟨List.Subset.trans hkey' hbehind,
            List.Subset.trans (subset_of_afterEquals hvalue') (List.Subset.trans hbehind' hbehind)⟩
      · cases h

/-- **What a line assigns** has no character from elsewhere. -/
theorem not_mem_readLine (hvalueOf : ∀ name, c ∉ valueOf name) (hc : c ≠ '\n') (hcs : c ∉ cs)
    {key value : String} (h : readLine valueOf cs = some (.assign key value)) :
    c ∉ key.toList ∧ c ∉ value.toList := by
  have hsub : (trimEnd cs).dropWhile isSpace ⊆ cs :=
    List.Subset.trans (List.dropWhile_suffix _).subset (trimEnd_subset cs)
  unfold readLine at h
  dsimp only at h
  split at h
  · cases h
  · split at h
    · cases h
    · rename_i word rest hassign
      obtain ⟨hkey, hrest⟩ := subset_of_readAssignment hassign
      have hword : c ∉ word := fun h => hcs (hsub (hkey h))
      split at h
      · obtain ⟨rfl, rfl⟩ := Line.assign.inj (Option.some.inj h)
        simpa using hword
      · obtain ⟨read, hread, hline⟩ := Option.map_eq_some_iff.mp h
        obtain ⟨rfl, rfl⟩ := Line.assign.inj hline
        have hvalue := not_mem_readValue hvalueOf hc (fun h => hcs (hsub (hrest h))) hread
        simpa using ⟨hword, hvalue⟩

end VariableFile

namespace Variables

variable {vs : Variables}

/-- **No variable holds a NUL character.** -/
def NulFree (vs : Variables) : Prop :=
  ∀ v ∈ vs, nul ∉ v.1.toList ∧ nul ∉ v.2.toList

theorem NulFree.not_mem_valueOf (h : vs.NulFree) (name : List Char) : nul ∉ vs.valueOf name := by
  unfold valueOf
  cases hvalue : vs.value? (String.ofList name) with
  | none => simp
  | some value =>
    obtain ⟨v, hv, hunder⟩ := List.exists_of_findSome?_eq_some hvalue
    unfold valueUnder? at hunder
    split at hunder
    · cases hunder
    · obtain ⟨rest, hrest, rfl⟩ := Option.map_eq_some_iff.mp hunder
      have htext := eq_append_of_behind? hrest
      have hnul : nul ∉ v.1.toList ++ '=' :: v.2.toList := by
        simpa [nul] using h v hv
      rw [← htext] at hnul
      simpa using fun hmem => hnul (List.mem_append_right _ hmem)

/-- **One assignment keeps the variables free of NUL characters.** -/
theorem setNew?_of_nulFree (h : vs.NulFree) {key value : String} (hkey : nul ∉ key.toList)
    (hvalue : nul ∉ value.toList) :
    ∃ vs', vs.setNew? key value = some vs' ∧ NulFree vs' := by
  unfold setNew?
  split
  · exact ⟨vs, rfl, h⟩
  · simp only [Option.some.injEq, exists_eq_left']
    intro v hv
    rcases List.mem_append.mp hv with hv | hv
    · exact h v hv
    · obtain rfl := List.mem_singleton.mp hv
      exact ⟨hkey, hvalue⟩

/-- **Lines without NUL characters are loaded to their end.** -/
theorem loadLines_of_nulFree {lines : List Bytes}
    (hlines : ∀ bytes ∈ lines, ∀ text ∈ decode? bytes, nul ∉ text.toList) (h : vs.NulFree) :
    (vs.loadLines lines).brokenOff = false := by
  induction lines generalizing vs with
  | nil => rfl
  | cons bytes more ih =>
    rw [List.forall_mem_cons] at hlines
    unfold loadLines
    cases hline : (decode? bytes).bind fun line => VariableFile.readLine vs.valueOf line.toList with
    | none => rfl
    | some line =>
      cases line with
      | blank => exact ih hlines.2 h
      | assign key value =>
        obtain ⟨text, htext, hread⟩ := Option.bind_eq_some_iff.mp hline
        obtain ⟨hkey, hvalue⟩ := VariableFile.not_mem_readLine h.not_mem_valueOf (by decide)
          (hlines.1 text htext) hread
        obtain ⟨vs', hset, h'⟩ := setNew?_of_nulFree h hkey hvalue
        simp only [hset]
        exact ih hlines.2 h'

/-- **A file without a NUL is loaded to its end.** -/
theorem loadFile_of_nulFree {content : Bytes} (hcontent : 0 ∉ content) (h : vs.NulFree) :
    (vs.loadFile content).brokenOff = false := by
  refine loadLines_of_nulFree (fun bytes hbytes text htext hmem => ?_) h
  rw [Option.mem_def] at htext
  have hzero : 0 ∈ encode text := mem_encode (c := nul) (by decide) hmem
  rw [encode_of_decode? htext] at hzero
  exact hcontent (subset_of_mem_linesOf hbytes hzero)

end Variables

/-- **A session whose file of variables has no NUL** is not broken off before its start. -/
theorem Host.variablesSet_of_no_nul {host : Host} (hinherited : host.inherited.NulFree)
    (hfile : ∀ content, host.files.read variableFile = .ok content → 0 ∉ content) :
    host.VariablesSet := by
  unfold VariablesSet loadedVariables
  cases hread : host.files.read variableFile with
  | error _ => rfl
  | ok content => exact Variables.loadFile_of_nulFree (hfile content hread) hinherited

end LineShell
