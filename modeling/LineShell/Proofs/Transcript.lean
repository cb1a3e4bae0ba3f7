import LineShell.Session
import Mathlib.Control.Monad.Basic

/-!
# What a session writes

The standard output of a session that starts is settled by its lines, one after the other: each
line before the stop adds a block of its own, whatever was said before it. The history, the log and
the files leave no trace there.

The reader underneath decides three things. It lets backspaces take effect, so a block is that of
the text that is left (`lineText?`). A backspace that would cut a character in two breaks the
session off (`cuts`); `Uncut` is the condition that none before the stop does. And on the simplest
terminals, whose names count in any mix of upper and lower case, it writes the prompt before each
line.

`answer_spec` says of one answer how the session goes on and what is written; induction over the
lines gives the same of a whole dialogue.

Results:
* `cuts_eq_false_of_short`: no backspace cuts a character where all clusters are short.
* `Manner.brokenOff_converse`, `Manner.stdoutOf_converse`: when a dialogue breaks off, and what it
  writes.
* `Host.exitStatus_run`, `Host.stdout_run`: the exit status and the standard output of every session
  that starts, the prompt included.
* **`run_transcript`**: without prompts and cuts, the status is 0 and the output is the transcript
  of the lines; nothing that comes after the line that stops has an effect.
-/

namespace LineShell

/-! ## Lines as they are read -/

/-- The text that a line of the input is read as, the backspaces in it having had their effect.
There is none if the line is not text, or if a backspace cuts a character in two. -/
def lineText? (bytes : Bytes) : Option String :=
  (decode? bytes).bind fun text => (eraseBackspaces? text.toList).map String.ofList

/-- Does a backspace in the line cut a character in two? -/
def cuts (bytes : Bytes) : Bool :=
  (decode? bytes).any fun text => (eraseBackspaces? text.toList).isNone

/-- Does the text bring the session to its end? -/
def isStop (line : String) : Bool :=
  trim line = "exit" ∨ trim line = "quit"

/-- Does the line bring the session to its end? -/
def stops (bytes : Bytes) : Bool :=
  (lineText? bytes).any isStop

/-- The lines before the first one that stops. -/
def beforeStop (lines : List Bytes) : List Bytes :=
  lines.takeWhile fun line => !stops line

theorem beforeStop_cons (line : Bytes) (more : List Bytes) :
    beforeStop (line :: more) = if stops line then [] else line :: beforeStop more := by
  cases h : stops line <;> simp [beforeStop, h]

theorem cuts_eq_false_of_lineText? {bytes : Bytes} {line : String}
    (h : lineText? bytes = some line) : cuts bytes = false := by
  obtain ⟨text, htext, hline⟩ := Option.bind_eq_some_iff.mp h
  obtain ⟨cs, hcs, -⟩ := Option.map_eq_some_iff.mp hline
  simp [cuts, htext, hcs]

theorem cuts_encode (text : String) :
    cuts (encode text) = (eraseBackspaces? text.toList).isNone := by
  rw [cuts, decode?_encode, Option.any_some]

theorem cuts_eq_false_of_stops {bytes : Bytes} (h : stops bytes = true) : cuts bytes = false := by
  cases hline : lineText? bytes with
  | none => simp [stops, hline] at h
  | some line => exact cuts_eq_false_of_lineText? hline

/-- **No line before the stop cuts a character in two.** Only a backspace after a cluster of 256
bytes or more could (`cuts_eq_false_of_short`). -/
def Uncut (lines : List Bytes) : Prop :=
  ∀ line ∈ beforeStop lines, cuts line = false

instance (lines : List Bytes) : Decidable (Uncut lines) :=
  inferInstanceAs (Decidable (∀ line ∈ beforeStop lines, cuts line = false))

theorem uncut_singleton_iff (line : Bytes) : Uncut [line] ↔ cuts line = false := by
  rw [Uncut, beforeStop_cons]
  cases hstop : stops line with
  | true => simp [cuts_eq_false_of_stops hstop]
  | false => simp [beforeStop]

theorem any_cuts_beforeStop (lines : List Bytes) :
    (beforeStop lines).any cuts = !decide (Uncut lines) := by
  by_cases h : Uncut lines
  · rw [decide_eq_true h]
    simpa [Uncut] using h
  · rw [decide_eq_false h]
    simpa [Uncut] using h

/-- **Only long clusters are cut**: those of 256 bytes and more. -/
theorem cuts_eq_false_of_short {bytes : Bytes}
    (h : ∀ text ∈ decode? bytes, ∀ cluster ∈ clusters text.toList, byteLength cluster < 256) :
    cuts bytes = false := by
  cases hdecode : decode? bytes with
  | none => rw [cuts, hdecode, Option.any_none]
  | some text =>
    have herase := eraseBackspaces?_of_short (h text hdecode)
    rw [cuts, hdecode, Option.any_some, herase, Option.isNone_some]

/-! ## Blocks -/

/-- A line for each token of the text, the end of the input among them. -/
def tokenLines (theme : Theme) (line : String) : String :=
  String.join ((tokenize line).map fun t => "  " ++ theme.showWarning t.display ++ "\n")

/-- The two lines about a text that parses. -/
def summaryLines (theme : Theme) (line : String) : String :=
  match parse line with
  | .ok c =>
    theme.successSymbol ++ " " ++ theme.showSuccess c.describe ++ "\n" ++
      theme.showWarning "Command execution is not implemented" ++ "\n"
  | .error _ => ""

/-- What a text that does not stop the session adds to the standard output. -/
def textBlock (theme : Theme) (showTokens : Bool) (line : String) : String :=
  if trim line = "" then ""
  else if trim line = "help" then helpText ++ "\n"
  else (if showTokens then tokenLines theme line else "") ++ summaryLines theme line

/-- What a line before the stop adds to the standard output: nothing if it is not text. -/
def block (theme : Theme) (showTokens : Bool) (bytes : Bytes) : String :=
  (lineText? bytes).elim "" (textBlock theme showTokens)

/-- **The transcript of the lines of an input**: the greeting, a block for each line before the
stop, an empty line if there is no stop, and the farewell. -/
def transcript (theme : Theme) (showTokens : Bool) (lines : List Bytes) : String :=
  theme.welcome ++ "\n" ++ (theme.help ++ "\n") ++
    String.join ((beforeStop lines).map (block theme showTokens)) ++
    (if lines.any stops then "" else "\n") ++ (theme.farewell ++ "\n")

/-! ## The standard output of events -/

@[simp]
theorem stdoutOf_nil : stdoutOf [] = "" := rfl

@[simp]
theorem stdoutOf_cons (e : Event) (es : List Event) :
    stdoutOf (e :: es) = e.stdout ++ stdoutOf es := by
  rw [stdoutOf, List.map_cons, String.join_cons, stdoutOf]

@[simp]
theorem stdoutOf_append (es fs : List Event) :
    stdoutOf (es ++ fs) = stdoutOf es ++ stdoutOf fs := by
  rw [stdoutOf, List.map_append, String.join_append, stdoutOf, stdoutOf]

@[simp]
theorem Event.stdout_outLine (text : String) : (Event.outLine text).stdout = text ++ "\n" := rfl

@[simp]
theorem Event.stdout_errLine (text : String) : (Event.errLine text).stdout = "" := rfl

@[simp]
theorem Event.stdout_record (r : Record) : (Event.record r).stdout = "" := rfl

namespace Manner

/-! ## One answer -/

theorem stdoutOf_tokenEvents (m : Manner) (line : String) :
    stdoutOf (m.tokenEvents line) = if m.showTokens then tokenLines m.theme line else "" := by
  unfold tokenEvents
  split
  · rw [stdoutOf, List.map_map]
    rfl
  · rfl

theorem stdoutOf_parseEvents (m : Manner) (line : String) :
    stdoutOf (m.parseEvents line) = summaryLines m.theme line := by
  simp only [parseEvents, summaryLines, parse]
  cases parseTokens (tokenize line) <;> simp [complaint, String.append_assoc]

/-- How the session goes on after a text, and what the answer writes. -/
theorem answerText_spec (m : Manner) (line : String) :
    (m.answerText line).sequel = (if isStop line then .leave else .nextLine) ∧
      stdoutOf (m.answerText line).events =
        if isStop line then "" else textBlock m.theme m.showTokens line := by
  rw [answerText, isStop, textBlock]
  by_cases hblank : trim line = ""
  · simp [hblank]
  by_cases hstop : trim line = "exit" ∨ trim line = "quit"
  · simp [hblank, hstop]
  by_cases hhelp : trim line = "help"
  · simp [hhelp]
  · simp [hblank, hstop, hhelp, stdoutOf_tokenEvents, stdoutOf_parseEvents]

/-- **How the session goes on after a line, and what the answer writes.** A line that is not text is
skipped; nothing of it is seen. -/
theorem answer_spec (m : Manner) (bytes : Bytes) :
    (m.answer bytes).sequel =
        (if cuts bytes then .breakOff else if stops bytes then .leave else .nextLine) ∧
      stdoutOf (m.answer bytes).events =
        if stops bytes then "" else block m.theme m.showTokens bytes := by
  cases hdecode : decode? bytes with
  | none => simp [answer, cuts, stops, block, lineText?, hdecode, complaint]
  | some text =>
    cases herase : eraseBackspaces? text.toList with
    | none => simp [answer, cuts, stops, block, lineText?, hdecode, herase]
    | some cs =>
      simpa [answer, cuts, stops, block, lineText?, hdecode, herase] using
        m.answerText_spec (String.ofList cs)

/-! ## The dialogue -/

/-- What a line before the stop adds to the standard output, with the prompt before it. -/
def exchange (m : Manner) (bytes : Bytes) : String :=
  stdoutOf m.promptEvents ++ block m.theme m.showTokens bytes

/-- **When a dialogue breaks off.** -/
theorem brokenOff_converse (m : Manner) (h : History) (lines : List Bytes) :
    (m.converse h lines).brokenOff = (beforeStop lines).any cuts := by
  induction lines generalizing h with
  | nil => rfl
  | cons line more ih =>
    simp only [converse, beforeStop_cons, (m.answer_spec line).1]
    cases hstop : stops line with
    | true => simp [cuts_eq_false_of_stops hstop]
    | false => cases hcut : cuts line <;> simp [hcut, ih]

/-- **What a dialogue writes**, if it does not break off. -/
theorem stdoutOf_converse (m : Manner) {lines : List Bytes} (hcut : Uncut lines) (h : History) :
    stdoutOf (m.converse h lines).events =
      String.join ((beforeStop lines).map m.exchange) ++ stdoutOf m.promptEvents ++
        if lines.any stops then "" else "\n" := by
  -- the history grows from line to line, and what is written does not depend on it
  induction lines generalizing h with
  | nil => simp [converse, beforeStop, endEvents]
  | cons line more ih =>
    obtain ⟨hsequel, hstdout⟩ := m.answer_spec line
    simp only [converse, hsequel]
    rw [Uncut, beforeStop_cons] at hcut
    rw [beforeStop_cons]
    cases hstop : stops line with
    | true => simp [hstop, cuts_eq_false_of_stops hstop, hstdout]
    | false =>
      rw [hstop, if_neg Bool.false_ne_true, List.forall_mem_cons] at hcut
      simp [hstop, hcut.1, ih hcut.2, hstdout, exchange, String.append_assoc]

/-- **Nothing after a line that stops counts.** -/
theorem converse_append_of_stops (m : Manner) {stop : Bytes} (hstop : stops stop = true)
    (h : History) (before after after' : List Bytes) :
    m.converse h (before ++ stop :: after) = m.converse h (before ++ stop :: after') := by
  induction before generalizing h with
  | nil =>
    simp only [List.nil_append, converse, (m.answer_spec stop).1, cuts_eq_false_of_stops hstop,
      hstop]
    rfl
  | cons line more ih => simp only [List.cons_append, converse, ih]

end Manner

/-! ## The session -/

namespace Variables

theorem promptEvents_eq_nil (vs : Variables)
    (h : ∀ term ∈ vs.value? "TERM", lowerAscii term ∉ ["dumb", "cons25", "emacs"]) :
    vs.manner.promptEvents = [] := by
  have hsimple : vs.hasSimpleTerminal = false := by
    unfold hasSimpleTerminal
    cases hterm : vs.value? "TERM" with
    | none => rfl
    | some term => exact decide_eq_false (h term hterm)
  exact if_neg (ne_true_of_eq_false hsimple)

theorem manner_theme (vs : Variables) :
    vs.manner.theme = .named vs.palette vs.settings.theme "minish" "0.1.0" := rfl

theorem manner_showTokens (vs : Variables) : vs.manner.showTokens = vs.settings.showTokens := rfl

end Variables

theorem stdoutOf_openingEvents (s : Settings) : stdoutOf (openingEvents s) = "" := rfl

theorem stdoutOf_loadHistory (s : Settings) (found : Except String Bytes) :
    stdoutOf (loadHistory s found).1 = "" := by
  have hbad (lines : List String) : stdoutOf (lines.map badLineEvent) = "" := by
    induction lines with
    | nil => rfl
    | cons line lines ih => rw [List.map_cons, stdoutOf_cons, ih]; rfl
  cases found with
  | error cause => rfl
  | ok content =>
    simp only [loadHistory, stdoutOf_append, hbad]
    split <;> rfl

theorem stdoutOf_greetingEvents (s : Settings) (m : Manner) :
    stdoutOf (greetingEvents s m) = m.theme.welcome ++ "\n" ++ (m.theme.help ++ "\n") := by
  simp [greetingEvents, String.append_assoc]

theorem stdoutOf_closing (saved : Except String Unit) (s : Settings) (m : Manner) :
    stdoutOf (saveEvent saved :: farewellEvents s m) = m.theme.farewell ++ "\n" := by
  cases saved <;> simp [saveEvent, farewellEvents]

namespace Host

variable {host : Host} {log : Location}

/-- **How a session goes on** depends on how its start ends. -/
theorem run_eq_match (host : Host) :
    host.run =
      match host.startUp.2 with
      | .error failure => ⟨failure.exitStatus, "", failure.stderr, host.startUp.1⟩
      | .ok log => host.runFrom host.startUp.1 log := by
  unfold run
  rcases host.startUp with ⟨files, failure | log⟩ <;> rfl

theorem run_of_startUp (h : host.startUp.2 = .ok log) :
    host.run = host.runFrom host.startUp.1 log := by
  rw [run_eq_match, h]

/-- **The exit status of a session that starts**: it tells whether the dialogue breaks off. -/
theorem exitStatus_run (h : host.startUp.2 = .ok log) :
    host.run.exitStatus =
      if Uncut (linesOf host.input) then 0 else breakStatus := by
  rw [run_of_startUp h]
  simp only [runFrom, Manner.brokenOff_converse, any_cuts_beforeStop]
  by_cases hcut : Uncut (linesOf host.input) <;> simp [hcut]

/-- **The standard output of a session that starts** and does not break off. -/
theorem stdout_run (h : host.startUp.2 = .ok log) (hcut : Uncut (linesOf host.input)) :
    host.run.stdout =
      host.manner.theme.welcome ++ "\n" ++ (host.manner.theme.help ++ "\n") ++
        (String.join ((beforeStop (linesOf host.input)).map host.manner.exchange) ++
          stdoutOf host.manner.promptEvents ++
          if (linesOf host.input).any stops then "" else "\n") ++
        (host.manner.theme.farewell ++ "\n") := by
  have hgoes : (beforeStop (linesOf host.input)).any cuts = false := by
    simpa [any_cuts_beforeStop] using hcut
  rw [run_of_startUp h]
  simp only [runFrom, Manner.brokenOff_converse, hgoes, Bool.false_eq_true, if_false, finish,
    stdoutOf_append, stdoutOf_openingEvents, stdoutOf_loadHistory, stdoutOf_greetingEvents,
    Manner.stdoutOf_converse _ hcut, stdoutOf_closing, String.empty_append]

/-- A start does not look at the input. -/
theorem startUp_withInput (host : Host) (input : Bytes) :
    ({ host with input } : Host).startUp = host.startUp := by
  have hloaded : ({ host with input } : Host).loadedVariables = host.loadedVariables := rfl
  have hsettings : ({ host with input } : Host).settings = host.settings := rfl
  -- by `rfl` this would run the whole start
  unfold startUp makeHistoryDirectory
  rw [hloaded, hsettings]

/-- A session depends on its input through the dialogue alone. -/
theorem run_withInput {input : Bytes}
    (h : ∀ history, host.manner.converse history (linesOf input) =
      host.manner.converse history (linesOf host.input)) :
    ({ host with input } : Host).run = host.run := by
  have hmanner : ({ host with input } : Host).manner = host.manner := rfl
  have hsettings : ({ host with input } : Host).settings = host.settings := rfl
  unfold run
  rw [host.startUp_withInput]
  simp only [runFrom, hmanner, hsettings, h]

end Host

/-- **The transcript of a session.** Let a session start, on a terminal that is not one of the
simplest, and let no line before the stop cut a character. Then its status is 0, and its standard
output is the transcript of its lines, in the theme and with the tokens that the variables ask for.
The input after a line that stops has no effect at all. -/
theorem run_transcript {host : Host} {log : Location} (hstart : host.startUp.2 = .ok log)
    (hterm : ∀ term ∈ host.environment.value? "TERM",
      lowerAscii term ∉ ["dumb", "cons25", "emacs"])
    (hcut : Uncut (linesOf host.input)) :
    host.run.exitStatus = 0 ∧
    host.run.stdout =
      transcript (.named host.environment.palette host.settings.theme "minish" "0.1.0")
        host.settings.showTokens (linesOf host.input) ∧
    ∀ before stop after after' input, stops stop = true →
      linesOf host.input = before ++ stop :: after → linesOf input = before ++ stop :: after' →
      ({ host with input } : Host).run = host.run := by
  refine ⟨?_, ?_, fun before stop after after' input hstop hlines hinput => ?_⟩
  · rw [Host.exitStatus_run hstart, if_pos hcut]
  · have hprompt : stdoutOf host.manner.promptEvents = "" := by
      rw [Host.manner, host.environment.promptEvents_eq_nil hterm, stdoutOf_nil]
    have hexchange :
        host.manner.exchange = block host.manner.theme host.manner.showTokens := by
      funext line
      rw [Manner.exchange, hprompt, String.empty_append]
    rw [Host.stdout_run hstart hcut, hprompt, hexchange, Host.manner, Variables.manner_theme,
      Variables.manner_showTokens, transcript, Host.settings]
    simp only [String.append_empty, String.append_assoc]
  · refine Host.run_withInput fun history => ?_
    rw [hlines, hinput]
    exact host.manner.converse_append_of_stops hstop history before after' after

/-- A session with a blank line, a line that does not parse, and a line after the one that stops,
with the tokens shown. -/
theorem run_transcript_of_six_lines :
    let host : Host :=
      { inherited := [("HOME", "home"), ("TERM", "xterm"), ("MINISH_SHOW_TOKENS", "on")]
        files := ⟨[]⟩
        input := encode "ls 'a\n \nhelp\n|\n\tquit\nls\n"
        date := "2000-01-01" }
    let tokenLine := fun t : Token => "  " ++ t.display ++ "\n"
    host.run.exitStatus = 0 ∧
    host.run.stdout =
      "minish v0.1.0\nType 'help' for a list of commands or 'exit' to quit.\n" ++
      (tokenLine (.word "ls") ++ tokenLine (.word "a") ++ tokenLine .endOfInput ++
        "✓ [simple] ls a\nCommand execution is not implemented\n") ++
      (helpText ++ "\n") ++
      (tokenLine (.symbol (.connective .pipeline)) ++ tokenLine .endOfInput) ++
      "Goodbye!\n" ∧
    ({ host with input := encode "ls 'a\n \nhelp\n|\n\tquit\n" } : Host).run = host.run := by
  intro host tokenLine
  have hstart : host.startUp.2 =
      .ok ["home", ".config", "minish", "logs", "minish_2000-01-01.log"] := by decide +kernel
  have hvalue : host.environment.value? "TERM" = some "xterm" := by decide +kernel
  have hterm : ∀ term ∈ host.environment.value? "TERM",
      lowerAscii term ∉ ["dumb", "cons25", "emacs"] := by
    intro term hmem
    obtain rfl : "xterm" = term := Option.some.inj (hvalue.symm.trans hmem)
    decide
  have hcut : Uncut (linesOf host.input) := by decide +kernel
  obtain ⟨hstatus, hstdout, hafter⟩ := run_transcript hstart hterm hcut
  exact ⟨hstatus, hstdout.trans (by decide +kernel),
    hafter (["ls 'a", " ", "help", "|"].map encode) (encode "\tquit") [encode "ls"] [] _
      (by decide +kernel) (by decide +kernel) (by decide +kernel)⟩

/-- A terminal with the name of a simple one in capitals gets the prompt all the same; and a cluster
of 257 bytes makes a backspace take one byte of a mark that has two. -/
theorem run_on_terminal_in_capitals :
    let host (term input : String) : Host :=
      { inherited := [("HOME", "home"), ("TERM", term)]
        files := ⟨[]⟩
        input := encode input
        date := "2000-01-01" }
    let capitals := host "DUMB" "exit\n"
    let marks := host "xterm" (String.ofList ('a' :: (List.replicate 128 '\u0301' ++ ['\x08'])))
    (capitals.startUp.2.isOk = true ∧
      capitals.environment.value? "TERM" = some "DUMB" ∧ "DUMB" ∉ ["dumb", "cons25", "emacs"] ∧
      capitals.run.stdout ≠
        transcript (.named capitals.environment.palette capitals.settings.theme "minish" "0.1.0")
          capitals.settings.showTokens (linesOf capitals.input)) ∧
    marks.startUp.2.isOk = true ∧
      marks.environment.value? "TERM" = some "xterm" ∧ "xterm" ∉ ["dumb", "cons25", "emacs"] ∧
      marks.run.exitStatus ≠ 0 := by
  intro host capitals marks
  have hbroken : marks.run.exitStatus ≠ 0 := by
    have hstart : marks.startUp.2 =
        .ok ["home", ".config", "minish", "logs", "minish_2000-01-01.log"] := by decide +kernel
    have hlines : linesOf marks.input = [marks.input] := by decide +kernel
    have hcuts : cuts marks.input = true := by
      rw [cuts_encode, String.toList_ofList]
      decide +kernel
    rw [Host.exitStatus_run hstart, hlines, if_neg (by simp [uncut_singleton_iff, hcuts])]
    decide
  refine ⟨⟨?_, ?_, ?_, ?_⟩, ?_, ?_, ?_, hbroken⟩ <;> decide +kernel

end LineShell
