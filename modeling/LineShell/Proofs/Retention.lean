import LineShell.History
import Mathlib.Data.List.Destutter
import Mathlib.Data.List.DropRight

/-!
# What the history keeps

A history that lines are added to holds the last of all lines so far, those that repeat the one
before them left out. `Proper` says what holds of a history at every moment, `Holds` what it holds.
`add_cases` is all that an addition can do; a step lemma for each of the two and an induction over
the lines give both for every run of additions. Loading a file is such a run (`history_scan`),
whether it comes to the end of the file or not.

The file is the other half: what was saved is what is loaded, entry by entry, whatever characters
the entries are made of, a line feed in them included. Only a carriage return at the end of an entry
is lost, as the end of its line takes it away.

Results:
* `Proper.add`, `Proper.foldl_add`, `Proper.load`: a proper history stays proper.
* `Holds.add`, **`holds_foldl_add`**: the entries are the last lines of all, and there are fresh
  ones exactly if a line came to the list.
* `Holds.save?_eq`: there is something to save exactly if a line was added.
* **`load_content`**: the entries of a proper history are loaded from the content that was saved,
  and nothing is said against a line of it.
-/

namespace LineShell

/-! ## Lines without repeats -/

/-- The lines, without each one that is equal to the line just before it. -/
def withoutRepeats (lines : List String) : List String :=
  lines.destutter (· ≠ ·)

theorem withoutRepeats_of_isChain {lines : List String} (h : lines.IsChain (· ≠ ·)) :
    withoutRepeats lines = lines :=
  List.destutter_of_isChain _ lines h

theorem getLast?_destutter' (first : String) (lines : List String) :
    (lines.destutter' (· ≠ ·) first).getLast? = (first :: lines).getLast? := by
  induction lines generalizing first with
  | nil => rfl
  | cons line more ih =>
    by_cases h : first = line
    · rw [List.destutter'_cons_neg _ (not_not.mpr h), ih, h, List.getLast?_cons_cons]
    · rw [List.destutter'_cons_pos _ h, List.getLast?_cons, ih, List.getLast?_cons_cons,
        List.getLast?_cons, Option.getD_some]

theorem destutter'_concat (first : String) (lines : List String) (line : String) :
    (lines ++ [line]).destutter' (· ≠ ·) first =
      if (first :: lines).getLast? = some line then lines.destutter' (· ≠ ·) first
      else lines.destutter' (· ≠ ·) first ++ [line] := by
  induction lines generalizing first with
  | nil => by_cases h : first = line <;> simp [h]
  | cons next more ih =>
    rw [List.cons_append, List.getLast?_cons_cons]
    by_cases h : first = next
    · rw [List.destutter'_cons_neg _ (not_not.mpr h), List.destutter'_cons_neg _ (not_not.mpr h),
        ih, h]
    · rw [List.destutter'_cons_pos _ h, List.destutter'_cons_pos _ h, ih]
      split <;> rfl

/-- **One more line** is left out if it repeats the last one. -/
theorem withoutRepeats_concat (lines : List String) (line : String) :
    withoutRepeats (lines ++ [line]) =
      if (withoutRepeats lines).getLast? = some line then withoutRepeats lines
      else withoutRepeats lines ++ [line] := by
  cases lines with
  | nil => rfl
  | cons first more =>
    unfold withoutRepeats
    rw [List.cons_append, List.destutter_cons', List.destutter_cons', destutter'_concat,
      getLast?_destutter']

theorem mem_withoutRepeats {lines : List String} {line : String} (h : line ∈ lines) :
    line ∈ withoutRepeats lines := by
  induction lines using List.reverseRecOn with
  | nil => exact h
  | append_singleton lines last ih =>
    rw [withoutRepeats_concat]
    rcases List.mem_append.mp h with hbefore | hlast
    · split
      · exact ih hbefore
      · exact List.mem_append_left _ (ih hbefore)
    · obtain rfl := List.mem_singleton.mp hlast
      split
      · rename_i hrepeat
        exact List.mem_of_getLast? hrepeat
      · exact List.mem_append_right _ hlast

theorem length_withoutRepeats_le (lines : List String) :
    (withoutRepeats lines).length ≤ lines.length :=
  (List.destutter_sublist _ lines).length_le

example : withoutRepeats ["a", "a", "b", "a"] = ["a", "b", "a"] := by decide

/-- The last lines of a row with one line more. -/
theorem rtake_concat (lines : List String) (line : String) {n : Nat} (hn : 1 ≤ n) :
    (lines ++ [line]).rtake n =
      (lines.rtake n ++ [line]).drop ((lines.rtake n).length + 1 - n) := by
  simp only [List.rtake, List.length_append, List.length_drop, List.length_singleton]
  rw [List.drop_append_of_le_length (by omega), List.drop_append_of_le_length (by
    rw [List.length_drop]
    omega), List.drop_drop]
  congr 2
  omega

theorem getLast?_rtake (lines : List String) {n : Nat} (hn : 1 ≤ n) :
    (lines.rtake n).getLast? = lines.getLast? := by
  rw [List.rtake, List.getLast?_drop]
  cases lines with
  | nil => simp
  | cons line more =>
    rw [if_neg]
    simp only [List.length_cons]
    omega

namespace History

/-! ## Proper histories -/

/-- **What holds of a history at every moment**: it keeps its capacity, and no entry is empty or
repeats the one before it. -/
structure Proper (h : History) : Prop where
  length_le : h.entries.length ≤ h.capacity
  ne_empty : ∀ entry ∈ h.entries, entry ≠ ""
  isChain : h.entries.IsChain (· ≠ ·)

theorem proper_empty (capacity : Nat) : (empty capacity).Proper :=
  ⟨Nat.zero_le _, fun _ h => absurd h List.not_mem_nil, .nil⟩

/-- **What becomes of a line**: it is left out, or it comes to the end and the oldest entry goes if
there are too many. -/
theorem add_cases (h : History) (line : String) :
    (h.add line = h ∧ (h.capacity = 0 ∨ line = "" ∨ h.entries.getLast? = some line)) ∨
      (h.capacity ≠ 0 ∧ line ≠ "" ∧ h.entries.getLast? ≠ some line ∧
        h.add line =
          let entries := (h.entries ++ [line]).drop (h.entries.length + 1 - h.capacity)
          ⟨h.capacity, entries, min (h.fresh + 1) entries.length⟩) := by
  unfold History.add
  split
  · rename_i hleft
    exact .inl ⟨rfl, hleft⟩
  · rename_i hkept
    obtain ⟨hcapacity, hline, hlast⟩ := by simpa only [not_or] using hkept
    exact .inr ⟨hcapacity, hline, hlast, rfl⟩

/-- **A line more leaves a history proper.** -/
theorem Proper.add {h : History} (hp : h.Proper) (line : String) : (h.add line).Proper := by
  have hlength := (length_add_le hp.length_le line).trans_eq (capacity_add h line).symm
  rcases h.add_cases line with ⟨hsame, -⟩ | ⟨-, hline, hlast, hadd⟩
  · rwa [hsame]
  · have hmem : ∀ entry ∈ h.entries ++ [line], entry ≠ "" := by
      intro entry hentry
      rcases List.mem_append.mp hentry with hold | hnew
      · exact hp.ne_empty entry hold
      · exact List.mem_singleton.mp hnew ▸ hline
    have hchain : (h.entries ++ [line]).IsChain (· ≠ ·) := by
      refine List.isChain_append.mpr ⟨hp.isChain, .singleton line, ?_⟩
      intro last hmem next hnext heq
      rw [List.head?_singleton, Option.mem_some_iff] at hnext
      exact hlast (hnext ▸ heq ▸ hmem)
    refine ⟨hlength, ?_, ?_⟩
    · rw [hadd]
      exact fun entry hentry => hmem entry (List.mem_of_mem_drop hentry)
    · rw [hadd]
      exact hchain.drop _

@[simp]
theorem capacity_foldl_add (h : History) (lines : List String) :
    (lines.foldl History.add h).capacity = h.capacity := by
  induction lines generalizing h with
  | nil => rfl
  | cons line more ih => rw [List.foldl_cons, ih, capacity_add]

theorem Proper.foldl_add {h : History} (hp : h.Proper) (lines : List String) :
    (lines.foldl History.add h).Proper := by
  induction lines generalizing h with
  | nil => exact hp
  | cons line more ih => exact ih (hp.add line)

theorem add_empty (h : History) : h.add "" = h := by
  simp [add]

/-- Lines without a character leave no entry. -/
theorem foldl_add_filter (h : History) (lines : List String) :
    (lines.filter (· ≠ "")).foldl add h = lines.foldl add h := by
  induction lines generalizing h with
  | nil => rfl
  | cons line more ih =>
    by_cases hline : line = ""
    · rw [hline, List.filter_cons_of_neg (by simp), List.foldl_cons, add_empty, ih]
    · rw [List.filter_cons_of_pos (by simpa using hline), List.foldl_cons, List.foldl_cons, ih]

/-! ## Loading -/

/-- The entry on a line of a file. A line that is not escaped as it should be is one as it is. -/
def entryOn (escaped : Bool) (line : String) : String :=
  if escaped then (entryOfLine? line.toList).elim line String.ofList else line

/-- The entries on the lines of a file, up to the first one that is not a text. -/
def entriesOn (escaped : Bool) : List Bytes → List String
  | [] => []
  | bytes :: more =>
    match decode? bytes with
    | none => []
    | some line => entryOn escaped line :: entriesOn escaped more

/-- **The lines of a file are entered like any others.** -/
theorem history_addLines (escaped : Bool) (h : History) (lines : List Bytes) :
    (addLines escaped h lines).history = (entriesOn escaped lines).foldl History.add h := by
  induction lines generalizing h with
  | nil => rfl
  | cons bytes more ih =>
    unfold addLines entriesOn
    cases decode? bytes with
    | none => rfl
    | some line =>
      cases escaped with
      | false => simp [ih, entryOn, String.ofList_toList]
      | true => cases hentry : entryOfLine? line.toList <;> simp [ih, entryOn, hentry]

/-- The entries that a file gives, up to the first line that is not a text. -/
def entriesOf (content : Bytes) : List String :=
  match linesOf content with
  | [] => []
  | first :: more =>
    if decode? first = some historyMark then entriesOn true more
    else entriesOn false (first :: more)

/-- The history with the lines of a file, before it is settled which entries are fresh. -/
def scan (h : History) (content : Bytes) : Loaded :=
  match linesOf content with
  | [] => ⟨h, [], true⟩
  | first :: more =>
    if decode? first = some historyMark then addLines true h more
    else addLines false h (first :: more)

theorem load_eq (h : History) (content : Bytes) :
    h.load content =
      if (h.scan content).complete then
        { h.scan content with history := { (h.scan content).history with fresh := 0 } }
      else h.scan content := rfl

@[simp]
theorem complete_load (h : History) (content : Bytes) :
    (h.load content).complete = (h.scan content).complete := by
  rw [load_eq]
  split <;> rfl

/-- What is loaded as a whole is not fresh. -/
theorem fresh_load {h : History} {content : Bytes} (hc : (h.load content).complete = true) :
    (h.load content).history.fresh = 0 := by
  rw [complete_load] at hc
  rw [load_eq, if_pos hc]

/-- What is loaded comes from additions alone. -/
theorem history_scan (h : History) (content : Bytes) :
    (h.scan content).history = (entriesOf content).foldl add h := by
  unfold scan entriesOf
  cases linesOf content with
  | nil => rfl
  | cons first more =>
    dsimp only
    split <;> exact history_addLines _ h _

theorem capacity_load (h : History) (content : Bytes) :
    (h.load content).history.capacity = h.capacity := by
  have hscan : (h.scan content).history.capacity = h.capacity := by
    rw [history_scan, capacity_foldl_add]
  rw [load_eq]
  split <;> exact hscan

/-- **A history that was loaded as a whole.** -/
theorem history_load_of_complete {h : History} {content : Bytes}
    (hc : (h.load content).complete = true) :
    (h.load content).history = ⟨h.capacity, (h.load content).history.entries, 0⟩ :=
  calc (h.load content).history
      = ⟨(h.load content).history.capacity, (h.load content).history.entries,
          (h.load content).history.fresh⟩ := rfl
    _ = _ := by rw [capacity_load, fresh_load hc]

/-- **A load that fails** leaves the entries before the bad line, and all of them count as new. -/
theorem history_load_of_failed {h : History} {content : Bytes}
    (hfail : (h.load content).complete = false) :
    (h.load content).history = (entriesOf content).foldl add h := by
  rw [complete_load] at hfail
  rw [load_eq, hfail, if_neg Bool.false_ne_true, history_scan]

/-- **Loading leaves a history proper**, whatever the content. -/
theorem Proper.load {h : History} (hp : h.Proper) (content : Bytes) :
    (h.load content).history.Proper := by
  have hscan : (h.scan content).history.Proper := by
    rw [history_scan]
    exact hp.foldl_add _
  rw [load_eq]
  split
  · exact ⟨hscan.length_le, hscan.ne_empty, hscan.isChain⟩
  · exact hscan

/-! ## What a history holds -/

/-- **What a history holds**: the last of the lines `all`, which started as `start`, with fresh
entries exactly if `all` has grown. -/
structure Holds (h : History) (start all : List String) : Prop where
  entries_eq : h.entries = all.rtake h.capacity
  grown : start <+: all
  fresh_eq_zero_iff : h.fresh = 0 ↔ all = start

/-- One more line. -/
theorem Holds.add {h : History} {start all : List String} (hh : h.Holds start all)
    (hcapacity : 1 ≤ h.capacity) {line : String} (hline : line ≠ "") :
    (h.add line).Holds start (if all.getLast? = some line then all else all ++ [line]) := by
  have hlast : h.entries.getLast? = all.getLast? := by
    rw [hh.entries_eq, getLast?_rtake all hcapacity]
  rcases h.add_cases line with ⟨hsame, hzero | hempty | hrepeat⟩ | ⟨-, -, hnew, hadd⟩
  · omega
  · exact absurd hempty hline
  · rw [hsame, if_pos (hlast ▸ hrepeat)]
    exact hh
  · have hgrown : all ++ [line] ≠ start := fun heq => by
      have hlength := hh.grown.length_le
      rw [← heq, List.length_append, List.length_singleton] at hlength
      omega
    have hpositive : 0 < ((h.entries ++ [line]).drop
        (h.entries.length + 1 - h.capacity)).length := by
      rw [List.length_drop, List.length_append, List.length_singleton]
      omega
    rw [if_neg (hlast ▸ hnew), hadd]
    refine ⟨?_, hh.grown.trans (List.prefix_append all [line]), ?_⟩
    · rw [rtake_concat all line hcapacity, ← hh.entries_eq]
    · simp only [hgrown, iff_false]
      omega

/-- **What a history holds after a row of lines**: the last of its entries and the lines, without
repeats. -/
theorem holds_foldl_add {h : History} (hp : h.Proper) (hcapacity : 1 ≤ h.capacity)
    (hfresh : h.fresh = 0) {lines : List String} (hlines : ∀ line ∈ lines, line ≠ "") :
    (lines.foldl History.add h).Holds h.entries (withoutRepeats (h.entries ++ lines)) := by
  -- from the end of the lines: the last addition is made to what the lines before it have left
  induction lines using List.reverseRecOn with
  | nil =>
    rw [List.append_nil, withoutRepeats_of_isChain hp.isChain, List.foldl_nil]
    refine ⟨?_, List.prefix_refl _, by simp [hfresh]⟩
    rw [List.rtake, Nat.sub_eq_zero_of_le hp.length_le, List.drop_zero]
  | append_singleton lines line ih =>
    have hbefore := ih fun line hmem => hlines line (List.mem_append_left _ hmem)
    rw [List.foldl_concat, ← List.append_assoc, withoutRepeats_concat]
    exact hbefore.add (by rwa [capacity_foldl_add]) (hlines line (by simp))

/-- **There is something to save exactly if a line was added.** -/
theorem Holds.save?_eq {h : History} {start all : List String} (hh : h.Holds start all)
    (hcapacity : 1 ≤ h.capacity) :
    h.save? = if all = start then none else some (content h.entries) := by
  unfold save?
  by_cases hsame : all = start
  · rw [if_pos (.inr (hh.fresh_eq_zero_iff.mpr hsame)), if_pos hsame]
  · have hentries : h.entries ≠ [] := by
      intro hnone
      have hlast := getLast?_rtake all hcapacity
      rw [← hh.entries_eq, hnone, List.getLast?_nil, eq_comm, List.getLast?_eq_none_iff] at hlast
      exact hsame (hlast.trans (List.prefix_nil.mp (hlast ▸ hh.grown)).symm)
    rw [if_neg (not_or.mpr ⟨hentries, mt hh.fresh_eq_zero_iff.mp hsame⟩), if_neg hsame]

/-- A history that started without entries is saved if it has any. -/
theorem Holds.save?_of_ne_nil {h : History} {all : List String} (hh : h.Holds [] all)
    (hne : h.entries ≠ []) : h.save? = some (content h.entries) := by
  have hall : all ≠ [] := by
    rintro rfl
    exact hne (by rw [hh.entries_eq, List.rtake_nil])
  exact if_neg (not_or.mpr ⟨hne, mt hh.fresh_eq_zero_iff.mp hall⟩)

/-! ## The file -/

theorem lineFeed_not_mem_escapeEntry (cs : List Char) : '\n' ∉ escapeEntry cs := by
  induction cs with
  | nil => exact List.not_mem_nil
  | cons c cs ih =>
    unfold escapeEntry
    split
    · simp [ih]
    · split
      · simp [ih]
      · rename_i hfeed
        simp [ih, Ne.symm hfeed]

theorem escapeEntry_of_not_mem {cs : List Char} (hback : '\\' ∉ cs) (hfeed : '\n' ∉ cs) :
    escapeEntry cs = cs := by
  induction cs with
  | nil => rfl
  | cons c cs ih =>
    rw [List.mem_cons, not_or] at hback hfeed
    rw [escapeEntry, if_neg (Ne.symm hback.1), if_neg (Ne.symm hfeed.1), ih hback.2 hfeed.2]

/-- An escaped entry ends in a carriage return only if the entry does. -/
theorem getLast?_escapeEntry {cs : List Char} (h : cs.getLast? ≠ some '\r') :
    (escapeEntry cs).getLast? ≠ some '\r' := by
  induction cs with
  | nil => exact h
  | cons c cs ih =>
    cases cs with
    | nil =>
      have hc : c ≠ '\r' := by simpa using h
      unfold escapeEntry
      split
      · decide
      · split
        · decide
        · simpa [escapeEntry] using hc
    | cons d ds =>
      have htail := ih (by rwa [List.getLast?_cons_cons] at h)
      have hne : escapeEntry (d :: ds) ≠ [] := by
        unfold escapeEntry
        split
        · exact List.cons_ne_nil _ _
        · split <;> exact List.cons_ne_nil _ _
      -- whatever the first character becomes, the end is that of the rest
      have hend (row : List Char) :
          (row ++ escapeEntry (d :: ds)).getLast? ≠ some '\r' := by
        rwa [List.getLast?_append, List.getLast?_eq_some_getLast hne, Option.some_or,
          ← List.getLast?_eq_some_getLast hne]
      unfold escapeEntry
      split
      · exact hend ['\\', '\\']
      · split
        · exact hend ['\\', 'n']
        · exact hend [c]

/-- The lines of a content that was saved: a carriage return at the end of an entry is lost. -/
theorem linesOf_content_eq_map (entries : List String) :
    linesOf (content entries) = encode historyMark ::
      entries.map fun e => dropReturn (encode (String.ofList (escapeEntry e.toList))) := by
  have hentries : linesOf (entries.flatMap fun e =>
      encode (String.ofList (escapeEntry e.toList) ++ "\n")) =
        entries.map fun e => dropReturn (encode (String.ofList (escapeEntry e.toList))) := by
    induction entries with
    | nil => rfl
    | cons entry more ih =>
      have hfeed : '\n' ∉ (String.ofList (escapeEntry entry.toList)).toList := by
        rw [String.toList_ofList]
        exact lineFeed_not_mem_escapeEntry _
      rw [List.flatMap_cons, linesOf_encode_append hfeed, ih, List.map_cons]
  rw [content, linesOf_encode_append (by decide), hentries, dropReturn_encode (by decide)]

/-- If no entry ends in a carriage return, the lines are the escaped entries. -/
theorem linesOf_content {entries : List String}
    (h : ∀ entry ∈ entries, entry.toList.getLast? ≠ some '\r') :
    linesOf (content entries) =
      encode historyMark :: entries.map fun e => encode (String.ofList (escapeEntry e.toList)) := by
  rw [linesOf_content_eq_map]
  refine congrArg _ (List.map_congr_left fun entry hentry => dropReturn_encode ?_)
  rw [String.toList_ofList]
  exact getLast?_escapeEntry (h entry hentry)

/-- Escaped lines are added as the entries that they stand for. -/
theorem addLines_escaped (h : History) (entries : List String) :
    addLines true h (entries.map fun e => encode (String.ofList (escapeEntry e.toList))) =
      ⟨entries.foldl History.add h, [], true⟩ := by
  induction entries generalizing h with
  | nil => rfl
  | cons entry more ih =>
    simp only [List.map_cons, addLines, decode?_encode, if_true, String.toList_ofList,
      entryOfLine?_escapeEntry, String.ofList_toList, ih, List.foldl_cons]

/-- **What is saved is loaded.** -/
theorem load_content {h : History} (hp : h.Proper) (hcapacity : 1 ≤ h.capacity)
    (hreturn : ∀ entry ∈ h.entries, entry.toList.getLast? ≠ some '\r') :
    (empty h.capacity).load (content h.entries) = ⟨⟨h.capacity, h.entries, 0⟩, [], true⟩ := by
  have hall : (h.entries.foldl History.add (empty h.capacity)).entries = h.entries := by
    have hholds := holds_foldl_add (proper_empty h.capacity) hcapacity rfl hp.ne_empty
    rw [hholds.entries_eq, capacity_foldl_add, empty, List.nil_append,
      withoutRepeats_of_isChain hp.isChain, List.rtake, Nat.sub_eq_zero_of_le hp.length_le,
      List.drop_zero]
  have hcap : (h.entries.foldl History.add (empty h.capacity)).capacity = h.capacity :=
    capacity_foldl_add _ _
  simp only [load, linesOf_content hreturn, decode?_encode, if_true, addLines_escaped]
  rw [hall, hcap]

end History

end LineShell
