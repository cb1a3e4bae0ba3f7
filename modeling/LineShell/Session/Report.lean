import LineShell.Session.Setup

/-!
# What a session reports besides its answers

The records and texts at the start, around the dialogue and at the end. What is said of the history
file depends on its content, or on the cause why there is none.

Models what `main`, `init_logger`, `Shell.run`, `load_history` and `save_history` say.
-/

namespace LineShell

/-- The records before the history is loaded. -/
def openingEvents (s : Settings) : List Event :=
  [.record (.debug ("日志级别设置为: " ++ s.level.name)),
   .record (.debug ("配置加载成功 " ++ s.configDir.text)),
   .record (.debug ("初始化 " ++ s.name ++ "..."))]

/-- The greeting. -/
def greetingEvents (s : Settings) (m : Manner) : List Event :=
  [.outLine m.theme.welcome, .outLine m.theme.help,
   .record (.debug (s.name ++ " 准备就绪..."))]

/-- The farewell. -/
def farewellEvents (s : Settings) (m : Manner) : List Event :=
  [.outLine m.theme.farewell, .record (.debug ("退出 " ++ s.name ++ "..."))]

/-! ## The history -/

/-- What is said if the history could not be loaded. -/
def loadFailure (s : Settings) (cause : String) : Event :=
  .record (.warn ("无法加载历史记录: " ++ s.historyFile.text ++ " " ++ cause))

/-- What is said of a line in the history file that is not escaped as it should be. -/
def badLineEvent (line : String) : Event :=
  .record ⟨.lineEditor, .warn, "bad escaped line: " ++ line⟩

/-- The history that the content of its file gives, or the cause why there is none, and what is
said about it. -/
def loadHistory (s : Settings) (found : Except String Bytes) : List Event × History :=
  match found with
  | .error cause => ([loadFailure s cause], .empty s.historySize)
  | .ok content =>
    let loaded := (History.empty s.historySize).load content
    let result :=
      if loaded.complete then Event.record (.debug "历史记录加载成功")
      else loadFailure s malformedText
    (loaded.badLines.map badLineEvent ++ [result], loaded.history)

/-- What is said after the history was saved, or why it was not. -/
def saveEvent (saved : Except String Unit) : Event :=
  match saved with
  | .ok () => .record (.debug "历史记录保存成功")
  | .error cause => .record (.error ("保存历史记录失败: " ++ cause))

end LineShell
