/-!
# Texts as bytes

Files and the standard input are rows of bytes. A row is a text if it is well-formed UTF-8.
`linesOf` cuts a row into lines: a line ends at a line feed or at the end of the row, and a carriage
return before a line feed is part of the line's end.

Models the lines of the standard input as the line editor cuts them, and those of files.

Headlines:
* **`decode?_encode`**: a text that is written is read back.
* **`linesOf_encode_append`**: so is a line, whatever comes after it, but for a carriage return at
  its end.
-/

namespace LineShell

/-- The content of a file. -/
abbrev Bytes := List UInt8

/-- A text as bytes. -/
def encode (s : String) : Bytes :=
  s.toByteArray.data.toList

/-- The text that the bytes are, if they are one. -/
def decode? (bs : Bytes) : Option String :=
  String.fromUTF8? ⟨bs.toArray⟩

/-- A text that is written is read back. -/
theorem decode?_encode (s : String) : decode? (encode s) = some s := by
  unfold decode? String.fromUTF8?
  rw [show (⟨(encode s).toArray⟩ : ByteArray) = s.toByteArray by simp [encode],
    dif_pos s.isValidUTF8]
  rfl

/-- A row of bytes that is a text is what this text is written as. -/
theorem encode_of_decode? {bs : Bytes} {s : String} (h : decode? bs = some s) : encode s = bs := by
  unfold decode? String.fromUTF8? at h
  split at h
  · obtain rfl := Option.some.inj h
    simp [encode, String.fromUTF8]
  · exact absurd h (by simp)

def lineFeed : UInt8 := 10

def carriageReturn : UInt8 := 13

/-- The line without a carriage return at its end. -/
def dropReturn (line : Bytes) : Bytes :=
  if line.getLast? = some carriageReturn then line.dropLast else line

/-- The lines of a row of bytes that follows `before`, the start of the first line, last byte
first. -/
def linesFrom (before : Bytes) : Bytes → List Bytes
  | [] => if before = [] then [] else [before.reverse]
  | b :: bs =>
    if b = lineFeed then dropReturn before.reverse :: linesFrom [] bs
    else linesFrom (b :: before) bs

/-- The lines of a row of bytes. -/
def linesOf (bs : Bytes) : List Bytes :=
  linesFrom [] bs

theorem dropReturn_subset (line : Bytes) : dropReturn line ⊆ line := by
  unfold dropReturn
  split
  · exact (List.dropLast_sublist line).subset
  · exact List.Subset.refl _

theorem subset_of_mem_linesFrom {before bs line : Bytes} (h : line ∈ linesFrom before bs) :
    line ⊆ before.reverse ++ bs := by
  induction bs generalizing before with
  | nil =>
    rw [linesFrom] at h
    split at h
    · exact absurd h List.not_mem_nil
    · obtain rfl := List.mem_singleton.mp h
      exact List.subset_append_left _ _
  | cons b bs ih =>
    rw [linesFrom] at h
    split at h
    · rcases List.mem_cons.mp h with rfl | hmore
      · exact List.Subset.trans (dropReturn_subset _) (List.subset_append_left _ _)
      · exact List.Subset.trans (ih hmore) fun c hc => by simpa using .inr (.inr hc)
    · simpa using ih h

/-- The bytes of a line stand in the file. -/
theorem subset_of_mem_linesOf {bs line : Bytes} (h : line ∈ linesOf bs) : line ⊆ bs :=
  subset_of_mem_linesFrom h

theorem lineFeed_not_mem_dropReturn {line : Bytes} (h : lineFeed ∉ line) :
    lineFeed ∉ dropReturn line :=
  fun hmem => h (dropReturn_subset line hmem)

theorem lineFeed_not_mem_of_mem_linesFrom {before bs line : Bytes} (hbefore : lineFeed ∉ before)
    (h : line ∈ linesFrom before bs) : lineFeed ∉ line := by
  induction bs generalizing before with
  | nil =>
    rw [linesFrom] at h
    split at h
    · exact absurd h List.not_mem_nil
    · obtain rfl := List.mem_singleton.mp h
      rwa [List.mem_reverse]
  | cons b bs ih =>
    rw [linesFrom] at h
    split at h
    · rcases List.mem_cons.mp h with rfl | hmore
      · exact lineFeed_not_mem_dropReturn (by rwa [List.mem_reverse])
      · exact ih List.not_mem_nil hmore
    · rename_i hb
      exact ih (by simp [hbefore, Ne.symm hb]) h

/-! ## Lines that are written -/

theorem encode_append (s t : String) : encode (s ++ t) = encode s ++ encode t := by
  rw [encode, String.toByteArray_append, ByteArray.data_append, Array.toList_append]
  rfl

/-- The bytes of a text, character by character. -/
theorem encode_eq_flatMap (s : String) : encode s = s.toList.flatMap String.utf8EncodeChar := by
  have h : s.toByteArray = s.toList.utf8Encode := by
    rw [← String.toByteArray_ofList, String.ofList_toList]
  rw [encode, h, List.utf8Encode, List.toList_data_toByteArray]

/-- The bytes of a character are its number, or are all above the ASCII range. -/
theorem utf8EncodeChar_cases (c : Char) :
    String.utf8EncodeChar c = [UInt8.ofNat c.val.toNat] ∧ c.val.toNat < 128 ∨
      ∀ b ∈ String.utf8EncodeChar c, 128 ≤ b.toNat := by
  by_cases hascii : c.val.toNat ≤ 127
  · exact .inl ⟨if_pos hascii, by omega⟩
  · refine .inr fun b hb => ?_
    simp only [String.utf8EncodeChar, if_neg hascii] at hb
    split at hb
    · simp only [List.mem_cons, List.not_mem_nil, or_false] at hb
      rcases hb with rfl | rfl <;> simp only [UInt8.toNat_ofNat'] <;> omega
    · split at hb <;> simp only [List.mem_cons, List.not_mem_nil, or_false] at hb
      · rcases hb with rfl | rfl | rfl <;> simp only [UInt8.toNat_ofNat'] <;> omega
      · rcases hb with rfl | rfl | rfl | rfl <;> simp only [UInt8.toNat_ofNat'] <;> omega

/-- **A byte in the ASCII range stands for its character** and for no other. -/
theorem eq_of_mem_utf8EncodeChar {c d : Char} (hd : d.val.toNat < 128)
    (h : UInt8.ofNat d.val.toNat ∈ String.utf8EncodeChar c) : c = d := by
  have hbyte : (UInt8.ofNat d.val.toNat).toNat = d.val.toNat := by
    rw [UInt8.toNat_ofNat']
    omega
  rcases utf8EncodeChar_cases c with ⟨heq, hc⟩ | hlarge
  · rw [heq, List.mem_singleton] at h
    have hnat := congrArg UInt8.toNat h
    rw [hbyte, UInt8.toNat_ofNat', Nat.mod_eq_of_lt (by omega)] at hnat
    exact Char.ext (UInt32.toNat_inj.mp hnat.symm)
  · have := hlarge _ h
    omega

/-- A character in the ASCII range stands in a text as its byte. -/
theorem mem_encode {s : String} {c : Char} (hc : c.val.toNat < 128) (h : c ∈ s.toList) :
    UInt8.ofNat c.val.toNat ∈ encode s := by
  have hbyte : String.utf8EncodeChar c = [UInt8.ofNat c.val.toNat] :=
    if_pos (Nat.le_of_lt_succ hc)
  rw [encode_eq_flatMap, List.mem_flatMap]
  exact ⟨c, h, hbyte ▸ List.mem_singleton_self _⟩

theorem lineFeed_not_mem_encode {s : String} (h : '\n' ∉ s.toList) : lineFeed ∉ encode s := by
  rw [encode_eq_flatMap, List.mem_flatMap]
  rintro ⟨c, hc, hmem⟩
  exact h (eq_of_mem_utf8EncodeChar (d := '\n') (by decide) hmem ▸ hc)

/-- A text that does not end in a carriage return is a line as it is. -/
theorem dropReturn_encode {s : String} (h : s.toList.getLast? ≠ some '\r') :
    dropReturn (encode s) = encode s := by
  refine if_neg fun hlast => h ?_
  rw [encode_eq_flatMap] at hlast
  cases hs : s.toList.getLast? with
  | none => simp [List.getLast?_eq_none_iff.mp hs] at hlast
  | some c =>
    obtain ⟨cs, hcs⟩ := List.getLast?_eq_some_iff.mp hs
    have hne : String.utf8EncodeChar c ≠ [] := by simp
    rw [hcs, List.flatMap_append, List.flatMap_singleton, List.getLast?_append,
      List.getLast?_eq_some_getLast hne, Option.some_or, ← List.getLast?_eq_some_getLast hne]
      at hlast
    rw [eq_of_mem_utf8EncodeChar (d := '\r') (by decide) (List.mem_of_getLast? hlast)]

theorem linesFrom_append {line : Bytes} (h : lineFeed ∉ line) (before bs : Bytes) :
    linesFrom before (line ++ lineFeed :: bs) =
      dropReturn (before.reverse ++ line) :: linesOf bs := by
  induction line generalizing before with
  | nil => simp [linesFrom, linesOf]
  | cons b line ih =>
    rw [List.mem_cons, not_or] at h
    rw [List.cons_append, linesFrom, if_neg (Ne.symm h.1), ih h.2]
    simp

/-- **A line that is written** is read back, whatever comes after it, but for a carriage return at
its end. -/
theorem linesOf_encode_append {s : String} (hfeed : '\n' ∉ s.toList) (bs : Bytes) :
    linesOf (encode (s ++ "\n") ++ bs) = dropReturn (encode s) :: linesOf bs := by
  have hline : encode (s ++ "\n") ++ bs = encode s ++ lineFeed :: bs := by
    rw [encode_append, List.append_assoc]
    rfl
  rw [hline, linesOf, linesFrom_append (lineFeed_not_mem_encode hfeed), List.reverse_nil,
    List.nil_append]

end LineShell
