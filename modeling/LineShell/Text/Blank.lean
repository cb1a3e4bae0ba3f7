import LineShell.Text.CharSet

/-!
# White space and trimming

`whiteSpace` is the property White_Space, 25 characters of all scripts. `trim` takes them away at
both ends of a text, `trimEnd` at its end.
-/

namespace LineShell

/-- The characters of the property White_Space. -/
def whiteSpace : CharSet := ⟨
  [(0x9, 0xD), (0x20, 0x20), (0x85, 0x85), (0xA0, 0xA0), (0x1680, 0x1680), (0x2000, 0x200A),
   (0x2028, 0x2029), (0x202F, 0x202F), (0x205F, 0x205F), (0x3000, 0x3000)]⟩

def isSpace (c : Char) : Bool :=
  whiteSpace.contains c

/-- The text without the white space at its end. -/
def trimEnd (cs : List Char) : List Char :=
  (cs.reverse.dropWhile isSpace).reverse

theorem trimEnd_subset (cs : List Char) : trimEnd cs ⊆ cs := by
  intro c hc
  rw [trimEnd, List.mem_reverse] at hc
  exact List.mem_reverse.mp ((List.dropWhile_suffix _).subset hc)

/-- The text without the white space at its ends. -/
def trim (s : String) : String :=
  String.ofList (trimEnd (s.toList.dropWhile isSpace))

end LineShell
