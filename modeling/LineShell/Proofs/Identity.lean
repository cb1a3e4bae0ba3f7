import LineShell.Command.Debug
import LineShell.Proofs.Literals

/-!
# The debug form tells commands apart

Words may hold anything: quotes, commas, brackets, or a whole debug form. Still no two commands have
the same debug form, as it can be read in one way only. Every part of it ends by itself
(`SelfDelimiting`): a literal with its second quote, a list with its bracket, a record with its
brace. So two forms that are equal are equal part by part, from the left, and with the parts the
commands are. The rendered line has no such property; it shows neither marks nor where words end.

Results:
* `SelfDelimiting.list`: a list ends by itself if its items do.
* `selfDelimiting_redirection`, `selfDelimiting_simpleCommand`, **`selfDelimiting_command`**: so do
  records, and trees by induction.
* **`debug_eq_debug_iff`**: commands with the same debug form are the same.
-/

namespace LineShell

/-! ## Names -/

theorem selfDelimiting_debugBool : SelfDelimiting fun b => (debugBool b).toList := by
  refine .of_unique_start fun a b => ?_
  cases a <;> cases b <;> decide

theorem selfDelimiting_redirectKind :
    SelfDelimiting fun kind : RedirectKind => kind.debug.toList := by
  refine .of_unique_start fun a b => ?_
  cases a <;> cases b <;> decide

theorem selfDelimiting_debugName :
    SelfDelimiting fun op : Connective => op.debugName.toList := by
  refine .of_unique_start fun a b => ?_
  cases a <;> cases b <;> decide

/-- The name of a simple command is not that of a node. -/
theorem simple_ne_debugName (op : Connective) (xs ys : List Char) :
    "Simple".toList ++ xs ≠ op.debugName.toList ++ ys := by
  intro h
  cases op <;> simp [Connective.debugName] at h

/-! ## Lists -/

section Lists

variable {α : Type} {form : α → String}

theorem toList_debugList_nil (form : α → String) :
    (debugList (([] : List α).map form)).toList = "[".toList ++ "]".toList := by
  rw [debugList, List.map_nil, String.intercalate_nil, String.toList_append, String.toList_append]
  rfl

theorem toList_debugList_cons (form : α → String) (a : α) (as : List α) :
    (debugList ((a :: as).map form)).toList = "[".toList ++ ((form a).toList ++
      (as.flatMap (fun b => ", ".toList ++ (form b).toList) ++ "]".toList)) := by
  have hitems : (", ".intercalate ((a :: as).map form)).toList =
      (form a).toList ++ as.flatMap fun b => ", ".toList ++ (form b).toList := by
    induction as generalizing a with
    | nil => simp
    | cons b bs ih =>
      rw [List.map_cons, List.map_cons, String.intercalate_cons_cons, ← List.map_cons,
        String.toList_append, ih, String.toList_append, List.flatMap_cons]
      simp only [List.append_assoc]
  rw [debugList, String.toList_append, String.toList_append, hitems]
  simp only [List.append_assoc]

/-- **Lists end by themselves** if their items do, and no item starts like the end of a list. -/
theorem SelfDelimiting.list (h : SelfDelimiting fun a => (form a).toList)
    (hclose : ∀ a xs ys, (form a).toList ++ xs ≠ "]".toList ++ ys) :
    SelfDelimiting fun as : List α => (debugList (as.map form)).toList := by
  -- after the first item, each one has a comma before it
  have hcomma : ∀ a xs ys, (", ".toList ++ (form a).toList) ++ xs ≠ "]".toList ++ ys := by
    intro a xs ys heq
    simp at heq
  have hmore := (h.after ", ".toList).row hcomma
  intro as bs xs ys heq
  cases as with
  | nil =>
    cases bs with
    | nil => exact ⟨rfl, List.append_cancel_left heq⟩
    | cons b bs =>
      simp only [toList_debugList_nil, toList_debugList_cons, List.append_assoc] at heq
      exact absurd (List.append_cancel_left heq).symm (hclose b _ _)
  | cons a as =>
    cases bs with
    | nil =>
      simp only [toList_debugList_nil, toList_debugList_cons, List.append_assoc] at heq
      exact absurd (List.append_cancel_left heq) (hclose a _ _)
    | cons b bs =>
      simp only [toList_debugList_cons, List.append_assoc] at heq
      obtain ⟨rfl, hrest⟩ := h (List.append_cancel_left heq)
      obtain ⟨rfl, hxs⟩ := hmore (by simpa only [List.append_assoc] using hrest)
      exact ⟨rfl, hxs⟩

end Lists

/-! ## Records -/

theorem toList_debug_redirection (r : Redirection) :
    r.debug.toList = "Redirection \x7b kind: ".toList ++ (r.kind.debug.toList ++
      (", target: ".toList ++ ((literal r.target).toList ++ " \x7d".toList))) := by
  simp [Redirection.debug, debugRecord]

theorem selfDelimiting_redirection : SelfDelimiting fun r : Redirection => r.debug.toList := by
  rintro ⟨kind, target⟩ ⟨kind', target'⟩ xs ys h
  simp only [toList_debug_redirection, List.append_assoc, List.append_cancel_left_eq] at h
  obtain ⟨rfl, htarget⟩ := selfDelimiting_redirectKind.cut h
  obtain ⟨rfl, hend⟩ := selfDelimiting_literal.cut htarget
  exact ⟨rfl, hend⟩

theorem toList_debug_simpleCommand (c : SimpleCommand) :
    c.debug.toList = "SimpleCommand \x7b name: ".toList ++ ((literal c.name).toList ++
      (", arguments: ".toList ++ ((debugList (c.arguments.map literal)).toList ++
        (", redirections: ".toList ++ ((debugList (c.redirections.map Redirection.debug)).toList ++
          " \x7d".toList))))) := by
  simp [SimpleCommand.debug, debugRecord]

theorem selfDelimiting_simpleCommand :
    SelfDelimiting fun c : SimpleCommand => c.debug.toList := by
  have hliterals := selfDelimiting_literal.list fun w xs ys h => by
    simp [literal] at h
  have hredirections := selfDelimiting_redirection.list fun r xs ys h => by
    simp [toList_debug_redirection] at h
  rintro ⟨name, arguments, redirections⟩ ⟨name', arguments', redirections'⟩ xs ys h
  simp only [toList_debug_simpleCommand, List.append_assoc, List.append_cancel_left_eq] at h
  obtain ⟨rfl, harguments⟩ := selfDelimiting_literal.cut h
  obtain ⟨rfl, hredirs⟩ := hliterals.cut harguments
  obtain ⟨rfl, hend⟩ := hredirections.cut hredirs
  exact ⟨rfl, hend⟩

/-! ## Trees -/

theorem toList_debug_simple (body : SimpleCommand) (background : Bool) :
    (Command.simple body background).debug.toList = "Command \x7b kind: ".toList ++
      ("Simple".toList ++ ("(".toList ++ (body.debug.toList ++
        ("), background: ".toList ++ ((debugBool background).toList ++ " \x7d".toList))))) := by
  simp [Command.debug, debugNode, debugCall, debugRecord]

theorem toList_debug_node (op : Connective) (left right : Command) (background : Bool) :
    (Command.node op left right background).debug.toList = "Command \x7b kind: ".toList ++
      (op.debugName.toList ++ ("(".toList ++ (left.debug.toList ++ (", ".toList ++
        (right.debug.toList ++ ("), background: ".toList ++
          ((debugBool background).toList ++ " \x7d".toList))))))) := by
  simp [Command.debug, debugNode, debugCall, debugRecord]

/-- **The debug form of a tree ends by itself.** -/
theorem selfDelimiting_command : SelfDelimiting fun c : Command => c.debug.toList := by
  intro c
  induction c with
  | simple body background =>
    intro d xs ys h
    cases d with
    | simple body' background' =>
      simp only [toList_debug_simple, List.append_assoc, List.append_cancel_left_eq] at h
      obtain ⟨rfl, hbackground⟩ := selfDelimiting_simpleCommand.cut h
      obtain ⟨rfl, hend⟩ := selfDelimiting_debugBool.cut hbackground
      exact ⟨rfl, hend⟩
    | node op left right background' =>
      simp only [toList_debug_simple, toList_debug_node, List.append_assoc,
        List.append_cancel_left_eq] at h
      exact absurd h (simple_ne_debugName op _ _)
  | node op left right background ihl ihr =>
    intro d xs ys h
    cases d with
    | simple body background' =>
      simp only [toList_debug_simple, toList_debug_node, List.append_assoc,
        List.append_cancel_left_eq] at h
      exact absurd h.symm (simple_ne_debugName op _ _)
    | node op' left' right' background' =>
      simp only [toList_debug_node, List.append_assoc, List.append_cancel_left_eq] at h
      obtain ⟨rfl, hleft⟩ := selfDelimiting_debugName.cut h
      obtain ⟨rfl, hright⟩ := ihl hleft
      obtain ⟨rfl, hbackground⟩ := ihr (List.append_cancel_left hright)
      obtain ⟨rfl, hend⟩ := selfDelimiting_debugBool.cut (List.append_cancel_left hbackground)
      exact ⟨rfl, hend⟩

/-- **The debug form identifies a tree.** Two commands have the same debug form only if they are
the same, with all words, redirections and background marks; each word stands in it as a literal. -/
theorem debug_eq_debug_iff :
    (∀ c d : Command, c.debug = d.debug ↔ c = d) ∧
      ∀ w : String, IsLiteral w (literal w).toList := by
  refine ⟨fun c d => ?_, isLiteral_literal⟩
  constructor
  · intro h
    have htexts : c.debug.toList ++ [] = d.debug.toList ++ [] := by rw [h]
    exact (selfDelimiting_command htexts).1
  · rintro rfl
    rfl

end LineShell
