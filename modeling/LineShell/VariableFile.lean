import LineShell.Text.Alphanumeric
import LineShell.Text.Blank
import LineShell.Text.Bytes

/-!
# Files of variables

A file of variables sets environment variables, one to a line:

    line  := blank | "#" anything | ["export"] key "=" [value] [comment]
    key   := letter or "_", then letters, digits, "_" and "."
    value := pieces outside and inside quotes, up to a space or a tab

Inside single quotes all is literal. Elsewhere a backslash escapes, and `$NAME` or `${NAME}` stands
for the value of a variable. The first line that does not fit ends the reading; the lines before
it have their effect. A variable that is set already keeps its value.

`Variables.loadFile` is the effect of a file on the variables. A value with a NUL character that
would have to be set breaks the reading off (`Loaded.brokenOff`).

A variable is kept as one text, its name, an equals sign and its value, and is looked up by the
front of that text (`Variables.value?`). The name inside braces can hold an equals sign too; it then
finds the rest of a value that goes on in the same way.

Models the file of variables that `Config.new` has a library read, in a build with debug assertions,
and the C library's lookup of a variable.

Out of scope: variables whose values are not text.

Headlines:
* **`Variables.value?_eq_lookup`**: among names without an equals sign, the lookup is by name.
-/

namespace LineShell

/-- Variables with their values; the first value of a name counts. -/
abbrev Variables := List (String × String)

namespace Variables

/-- What stands behind the front of a text, if the text starts with it. -/
def behind? : List Char → List Char → Option (List Char)
  | [], text => some text
  | _ :: _, [] => none
  | f :: front, c :: text => if f = c then behind? front text else none

/-- The value that a variable has under a name. No variable has one under the empty name. -/
def valueUnder? (name : String) (v : String × String) : Option String :=
  if name = "" then none
  else (behind? (name.toList ++ ['=']) (v.1.toList ++ '=' :: v.2.toList)).map String.ofList

/-- The value under a name. -/
def value? (vs : Variables) (name : String) : Option String :=
  vs.findSome? (valueUnder? name)

theorem eq_append_of_behind? {front text rest : List Char} (h : behind? front text = some rest) :
    front ++ rest = text := by
  fun_induction behind? front text <;> simp_all

theorem behind?_of_not_mem {name key : List Char} (hn : '=' ∉ name) (hk : '=' ∉ key)
    (value : List Char) :
    behind? (name ++ ['=']) (key ++ '=' :: value) = if name = key then some value else none := by
  induction name generalizing key with
  | nil =>
    cases key with
    | nil => rfl
    | cons k key =>
      have : ¬ '=' = k := fun h => hk (h ▸ List.mem_cons_self)
      simp [behind?, this]
  | cons n name ih =>
    have hne : ¬n = '=' := fun h => hn (h ▸ List.mem_cons_self)
    cases key with
    | nil => simp [behind?, hne]
    | cons k key =>
      have h := @ih key (fun h => hn (by simp [h])) (fun h => hk (by simp [h]))
      by_cases hnk : n = k <;> simp [behind?, hnk, h]

/-- **Among names without an equals sign**, the lookup is by name. -/
theorem value?_eq_lookup {vs : Variables} (hvs : ∀ v ∈ vs, '=' ∉ v.1.toList) {name : String}
    (hne : name ≠ "") (hn : '=' ∉ name.toList) : vs.value? name = vs.lookup name := by
  induction vs with
  | nil => rfl
  | cons v vs ih =>
    have ih := ih fun w hw => hvs w (by simp [hw])
    have hv := behind?_of_not_mem hn (hvs v (by simp)) v.2.toList
    unfold value? at ih ⊢
    rw [List.findSome?_cons, List.lookup_cons, ← ih, valueUnder?, if_neg hne, hv]
    by_cases h : name = v.1
    · simp [h]
    · have hb : (name == v.1) = false := by simp [h]
      simp [h, hb, String.toList_inj]

end Variables

namespace VariableFile

/-! ## Values -/

/-- Where in a value the reader is. `quoted` says whether a double quote is open. -/
inductive Mode where
  | text (quoted : Bool)
  /-- Inside single quotes. -/
  | literal
  /-- After a backslash. -/
  | escape (quoted : Bool)
  /-- After a dollar sign and the start of a name. -/
  | name (quoted : Bool) (start : List Char)
  /-- After a dollar sign, a brace and the start of a name. -/
  | braces (quoted : Bool) (start : List Char)
  /-- After the value; blanks and a comment may follow. -/
  | done
  deriving DecidableEq, Repr

/-- The characters that a backslash makes literal. -/
def isEscapable (c : Char) : Bool :=
  c == '\\' || c == '\'' || c == '"' || c == '$' || c == ' '

/-- The value that the characters make, read in the given mode; `valueOf` gives the values of
variables. -/
def readValue (valueOf : List Char → List Char) : Mode → List Char → Option (List Char)
  | .text quoted, [] => if quoted then none else some []
  | .text true, c :: cs =>
    if c = '$' then readValue valueOf (.name true []) cs
    else if c = '"' then readValue valueOf (.text false) cs
    else if c = '\\' then readValue valueOf (.escape true) cs
    else (readValue valueOf (.text true) cs).map (c :: ·)
  | .text false, c :: cs =>
    if c = '$' then readValue valueOf (.name false []) cs
    else if c = '\'' then readValue valueOf .literal cs
    else if c = '"' then readValue valueOf (.text true) cs
    else if c = '\\' then readValue valueOf (.escape false) cs
    else if c = ' ' ∨ c = '\t' then readValue valueOf .done cs
    else (readValue valueOf (.text false) cs).map (c :: ·)
  | .literal, [] => none
  | .literal, c :: cs =>
    if c = '\'' then readValue valueOf (.text false) cs
    else (readValue valueOf .literal cs).map (c :: ·)
  | .escape quoted, [] => if quoted then none else some []
  | .escape quoted, c :: cs =>
    if isEscapable c then (readValue valueOf (.text quoted) cs).map (c :: ·)
    else if c = 'n' then (readValue valueOf (.text quoted) cs).map ('\n' :: ·)
    else none
  | .name quoted start, [] => if quoted then none else some (valueOf start)
  | .name quoted start, c :: cs =>
    if alphanumeric.contains c then readValue valueOf (.name quoted (start ++ [c])) cs
    else if c = '\x7b' ∧ start = [] then readValue valueOf (.braces quoted []) cs
    else if c = '$' then (readValue valueOf (.name quoted []) cs).map (valueOf start ++ ·)
    else (readValue valueOf (.text quoted) cs).map (valueOf start ++ c :: ·)
  | .braces _ _, [] => none
  | .braces quoted start, c :: cs =>
    if c = '\x7d' then (readValue valueOf (.text quoted) cs).map (valueOf start ++ ·)
    else readValue valueOf (.braces quoted (start ++ [c])) cs
  | .done, [] => some []
  | .done, c :: cs =>
    if c = ' ' ∨ c = '\t' then readValue valueOf .done cs
    else if c = '#' then some []
    else none

/-! ## Lines -/

/-- What a line says. -/
inductive Line where
  | blank
  | assign (key value : String)
  deriving DecidableEq, Repr

def startsKey (c : Char) : Bool :=
  c.isAlpha || c == '_'

def continuesKey (c : Char) : Bool :=
  c.isAlphanum || c == '_' || c == '.'

/-- The key at the front and what follows it and the white space after it. -/
def readKey (cs : List Char) : Option (List Char × List Char) :=
  if cs.head?.any startsKey then
    some (cs.takeWhile continuesKey, (cs.dropWhile continuesKey).dropWhile isSpace)
  else none

/-- What follows the equals sign at the front and the white space after it. -/
def afterEquals : List Char → Option (List Char)
  | '=' :: cs => some (cs.dropWhile isSpace)
  | _ => none

/-- The key of a line and what stands for its value. The word `export` may stand before the key,
and is the key if an equals sign follows. -/
def readAssignment (cs : List Char) : Option (List Char × List Char) :=
  match readKey cs with
  | none => none
  | some (key, rest) =>
    match afterEquals rest with
    | some value => some (key, value)
    | none =>
      if key = "export".toList then
        match readKey rest with
        | none => none
        | some (key, rest) => (afterEquals rest).map (key, ·)
      else none

/-- A line of a file; nothing if it does not fit. -/
def readLine (valueOf : List Char → List Char) (line : List Char) : Option Line :=
  let cs := (trimEnd line).dropWhile isSpace
  if cs = [] ∨ cs.head? = some '#' then some .blank
  else
    match readAssignment cs with
    | none => none
    | some (key, rest) =>
      if rest = [] ∨ rest.head? = some '#' then some (.assign (String.ofList key) "")
      else
        (readValue valueOf (.text false) rest).map fun value =>
          .assign (String.ofList key) (String.ofList value)

end VariableFile

namespace Variables

open VariableFile

/-- The value of a variable; one that is not set is empty. -/
def valueOf (vs : Variables) (name : List Char) : List Char :=
  ((vs.value? (String.ofList name)).getD "").toList

/-- The character that no value of a variable can have, since it stands for its end. -/
def nul : Char := '\x00'

/-- The variables with one more, unless its name is set already. There are none if a value with a
NUL character would have to be set. -/
def setNew? (vs : Variables) (name value : String) : Option Variables :=
  if (vs.value? name).isSome then some vs
  else if nul ∈ value.toList then none
  else some (vs ++ [(name, value)])

/-- What comes of reading a file of variables. -/
structure Loaded where
  values : Variables
  /-- Did the reading break off at a value that cannot be set? -/
  brokenOff : Bool

/-- The variables after the lines of a file. -/
def loadLines (vs : Variables) : List Bytes → Loaded
  | [] => ⟨vs, false⟩
  | bytes :: more =>
    match (decode? bytes).bind fun line => readLine vs.valueOf line.toList with
    | none => ⟨vs, false⟩
    | some .blank => loadLines vs more
    | some (.assign key value) =>
      match vs.setNew? key value with
      | none => ⟨vs, true⟩
      | some vs => loadLines vs more

/-- The variables after a file. -/
def loadFile (vs : Variables) (content : Bytes) : Loaded :=
  loadLines vs (linesOf content)

end Variables

end LineShell
