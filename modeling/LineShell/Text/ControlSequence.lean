/-!
# Control sequences

A text for a terminal can hold control characters, and sequences of characters that are commands:
an escape character and what belongs to it. `withoutControls` takes both away, so that a line shows
nothing but its text.

A sequence begins with an escape character. What follows decides its kind (`Stage`): a few
characters up to a final one, parameters up to a final one, or a string that goes on until it is
closed. The escape character, and the two characters that cancel, end every sequence that is open. A
string that is never closed takes everything after it away.

Blanks and line ends are shown also inside a sequence of the first two kinds. They hold it up: what
comes after them is shown, until a hidden control character takes the sequence up again or a
character beyond ASCII ends it.

Models the filter for terminal sequences that every record goes through on its way out.

Headlines:
* **`withoutControls_eq_self`**: a text without controls is left as it is.
-/

namespace LineShell

namespace ControlSequence

/-! ## Characters -/

def escape : Char := '\x1b'

/-- The two characters that cancel a sequence. -/
def cancels (c : Char) : Bool :=
  c == '\x18' || c == '\x1a'

/-- Control characters of ASCII. -/
def isControl (c : Char) : Bool :=
  decide (c.toNat < 0x20) || c == '\x7f'

/-- The control characters that are shown, as blanks and line ends. -/
def isSpacing (c : Char) : Bool :=
  c == '\t' || c == '\n' || c == '\x0c' || c == '\r'

/-- The characters that are shown where no sequence is open. -/
def isShown (c : Char) : Bool :=
  isSpacing c || !isControl c

/-- Does the code point lie between the two bounds? -/
def within (low high : Nat) (c : Char) : Bool :=
  decide (low ≤ c.toNat) && decide (c.toNat ≤ high)

/-- The characters that go between the start of a sequence and its end. -/
def isIntermediate (c : Char) : Bool :=
  within 0x20 0x2f c

/-- The digits and separators of a parameter. -/
def isParameter (c : Char) : Bool :=
  within 0x30 0x3b c

/-- The marks that stand before parameters. -/
def isPrivateMark (c : Char) : Bool :=
  within 0x3c 0x3f c

/-- The characters that end a row of parameters. -/
def isFinal (c : Char) : Bool :=
  within 0x40 0x7e c

/-- Does one of the bytes of the character close a string? -/
def closesString (c : Char) : Bool :=
  (String.utf8EncodeChar c).contains 0x9c

/-! ## Stages -/

/-- How far a sequence has come. -/
inductive Stage where
  /-- No sequence is open. -/
  | closed
  /-- The escape character has been read. -/
  | opened
  /-- The sequence ends with the next character that is not intermediate. -/
  | intermediate
  /-- The parameters of a sequence are read. -/
  | parameters
  /-- A device string starts. -/
  | deviceStart
  /-- The parameters of a device string are read. -/
  | deviceParameters
  /-- The intermediate characters of a device string are read. -/
  | deviceIntermediate
  /-- A string is read that one byte closes. -/
  | string
  /-- A system command is read, which the bell closes. -/
  | command
  deriving DecidableEq, Repr

namespace Stage

/-- Is a character shown at this stage? -/
def shows : Stage → Char → Bool
  | closed, c => isShown c
  | opened, c | intermediate, c | parameters, c => isSpacing c
  | _, _ => false

/-- The stage after the character that follows an escape character. -/
def ofKind (c : Char) : Stage :=
  if isIntermediate c then intermediate
  else if c = '[' then parameters
  else if c = ']' then command
  else if c = 'P' then deviceStart
  else if c = 'X' ∨ c = '^' ∨ c = '_' then string
  else if within 0x30 0x7e c then closed
  else opened

/-- The stage after a character that is not shown. -/
def next (s : Stage) (c : Char) : Stage :=
  if c = escape then opened
  else if cancels c then closed
  else
    match s with
    | closed => closed
    | opened => ofKind c
    | intermediate => if within 0x30 0x7e c then closed else intermediate
    | parameters => if isFinal c then closed else parameters
    | deviceStart =>
      if isIntermediate c then deviceIntermediate
      else if isParameter c || isPrivateMark c then deviceParameters
      else if isFinal c then string
      else deviceStart
    | deviceParameters =>
      if isIntermediate c then deviceIntermediate
      else if isPrivateMark c || isFinal c then string
      else deviceParameters
    | deviceIntermediate =>
      if isParameter c || isPrivateMark c || isFinal c then string else deviceIntermediate
    | string => if closesString c then closed else string
    | command => if c = '\x07' then closed else command

end Stage

/-! ## Texts -/

/-- The characters that are shown of a text that follows a sequence at stage `s`; `heldUp` tells
that the sequence is held up. -/
def shownFrom (s : Stage) (heldUp : Bool) : List Char → List Char
  | [] => []
  | c :: cs =>
    if (if heldUp then isShown c else s.shows c) then
      c :: shownFrom (if c.toNat < 0x80 then s else .closed) true cs
    else shownFrom (s.next c) false cs

theorem shownFrom_closed_eq_self {cs : List Char} (h : ∀ c ∈ cs, isShown c = true)
    (heldUp : Bool) : shownFrom .closed heldUp cs = cs := by
  induction cs generalizing heldUp with
  | nil => rfl
  | cons c cs ih =>
    have hc : isShown c = true := h c (by simp)
    have hcs : ∀ d ∈ cs, isShown d = true := fun d hd => h d (by simp [hd])
    cases heldUp <;> simp [shownFrom, Stage.shows, hc, ih hcs]

end ControlSequence

open ControlSequence

/-- The text without control characters and control sequences; blanks and line ends stay. -/
def withoutControls (s : String) : String :=
  String.ofList (shownFrom .closed false s.toList)

/-- **A text without controls** is left as it is. -/
theorem withoutControls_eq_self {s : String} (h : ∀ c ∈ s.toList, isShown c = true) :
    withoutControls s = s := by
  simp [withoutControls, shownFrom_closed_eq_self h]

end LineShell
