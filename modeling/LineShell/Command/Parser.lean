import LineShell.Command.Rule
import LineShell.Lexeme

/-!
# Reading commands from tokens

The grammar has four connectives, each binding tighter than the one before, and one mark at the end:

    line        := command end
    command     := disjunction (";" disjunction)* ["&"]
    disjunction := conjunction ("||" conjunction)*
    conjunction := pipeline ("&&" pipeline)*
    pipeline    := simple ("|" simple)*
    simple      := name part*               name: a word that is not empty
    part        := word | ("<" | ">" | ">>") word

There is a rule for each line. No rule takes the end of the input: where the first one stands,
reading ends, and what follows it has no effect.

Models `Parser` of the module `parser`: `parse`, `parse_complete`, `parse_command`,
`parse_logical_or`, `parse_logical_and`, `parse_pipeline`, `parse_simple_command`,
`parse_redirection` and `is_at_end`. Here a rule has the tokens that are left; the place in the list
and the tokens that `advance` overwrites are those of `Cursor`, whose programs are proved to follow
these rules.

Out of scope: how deep calls may nest; a tree of any depth is read.

Headlines:
* **`parseTokens`**: a list of tokens as a command, or the failure.
* **`parse`**: a line as a command, or the cause.
-/

namespace LineShell

/-! ## Simple commands -/

/-- What may follow the name of a simple command. -/
inductive Part where
  | argument (value : String)
  | redirection (r : Redirection)
  deriving DecidableEq, Repr

namespace Part

def argument? : Part → Option String
  | argument value => some value
  | redirection _ => none

def redirection? : Part → Option Redirection
  | argument _ => none
  | redirection r => some r

end Part

/-- A name and what follows it: the arguments in their order, the redirections in theirs. -/
def SimpleCommand.ofParts (name : String) (ps : List Part) : SimpleCommand :=
  ⟨name, ps.filterMap Part.argument?, ps.filterMap Part.redirection?⟩

/-- As many parts as there are. A redirection operator without a word after it is a failure. -/
def readParts : List Token → Except Failure (List Part × List Token)
  | .word w :: ts => (readParts ts).map (Prod.map (.argument w :: ·) id)
  | .symbol (.redirect kind) :: .word w :: ts =>
    (readParts ts).map (Prod.map (.redirection ⟨kind, w⟩ :: ·) id)
  | .symbol (.redirect kind) :: ts => .error ⟨.expectedFilename kind, ts⟩
  | ts => .ok ([], ts)

/-- A name that is not empty, and its parts. -/
def readSimple : List Token → Except Failure (Command × List Token)
  | .word name :: ts =>
    if name.isEmpty then .error ⟨.expectedCommand, .word name :: ts⟩
    else (readParts ts).map (Prod.map (fun ps => .simple (.ofParts name ps) false) id)
  | ts => .error ⟨.expectedCommand, ts⟩

theorem readParts_takes {ts rest : List Token} {ps : List Part}
    (h : readParts ts = .ok (ps, rest)) : ∃ used, ts = used ++ rest := by
  fun_induction readParts ts generalizing ps with
  | case1 w ts ih =>
    obtain ⟨⟨qs, us⟩, hr, he⟩ := map_eq_ok_iff.mp h
    obtain ⟨-, rfl⟩ := Prod.mk.inj he
    obtain ⟨used, rfl⟩ := ih hr
    exact ⟨.word w :: used, rfl⟩
  | case2 kind w ts ih =>
    obtain ⟨⟨qs, us⟩, hr, he⟩ := map_eq_ok_iff.mp h
    obtain ⟨-, rfl⟩ := Prod.mk.inj he
    obtain ⟨used, rfl⟩ := ih hr
    exact ⟨.symbol (.redirect kind) :: .word w :: used, rfl⟩
  | case3 => simp at h
  | case4 ts =>
    obtain ⟨-, rfl⟩ : [] = ps ∧ ts = rest := by simpa using h
    exact ⟨[], rfl⟩

/-- The rule for simple commands. -/
def simpleRule : Rule Command where
  read := readSimple
  takes := by
    intro ts a rest h
    unfold readSimple at h
    split at h
    · next name ts =>
      split at h
      · simp at h
      · obtain ⟨⟨ps, us⟩, hr, he⟩ := map_eq_ok_iff.mp h
        obtain ⟨-, rfl⟩ := Prod.mk.inj he
        obtain ⟨used, rfl⟩ := readParts_takes hr
        exact ⟨.word name :: used, by simp, rfl⟩
    · simp at h

/-! ## The levels of the grammar -/

def pipelineRule : Rule Command := simpleRule.chain .pipeline

def conjunctionRule : Rule Command := pipelineRule.chain .and

def disjunctionRule : Rule Command := conjunctionRule.chain .or

def sequenceRule : Rule Command := disjunctionRule.chain .sequence

/-- A sequence, marked as running in the background if the mark follows it. -/
def commandRule : Rule Command where
  read ts :=
    match sequenceRule.read ts with
    | .error e => .error e
    | .ok (c, rest) =>
      match eat .background rest with
      | none => .ok (c, rest)
      | some us => .ok (c.setBackground true, us)
  takes := by
    intro ts a rest h
    split at h
    · simp at h
    · next c us hr =>
      obtain ⟨used, hne, rfl⟩ := sequenceRule.takes hr
      split at h
      · obtain ⟨-, rfl⟩ : c = a ∧ us = rest := by simpa using h
        exact ⟨used, hne, rfl⟩
      · next vs he =>
        obtain ⟨-, rfl⟩ : c.setBackground true = a ∧ vs = rest := by simpa using h
        exact ⟨used ++ [.symbol .background], by simp, by rw [eat_eq_some_iff.mp he]; simp⟩

/-! ## Whole lines -/

/-- Does the input end here? -/
def atEnd : List Token → Bool
  | [] => true
  | .endOfInput :: _ => true
  | _ => false

/-- A list of tokens as one command. -/
def parseTokens (ts : List Token) : Except Failure Command :=
  match commandRule.read ts with
  | .error e => .error e
  | .ok (c, rest) => if atEnd rest then .ok c else .error ⟨.unexpectedTrailingTokens, rest⟩

/-- A line as one command. -/
def parse (line : String) : Except ParseError Command :=
  match parseTokens (tokenize line) with
  | .error f => .error f.error
  | .ok c => .ok c

end LineShell
