import LineShell.Proofs.RoundTrip

/-!
# What rendering forgets

A tree can nest its connectives against their strengths: a sequence under a pipeline, or a row of
one connective to the right. Rendering writes no brackets, so it shows the simple commands and the
connectives between them and nothing else, and parsing brackets them anew.

`Command.normal` is the tree that comes back. It has a recursion of its own, which is neither that
of the renderer nor that of the parser: the simple commands are attached one by one
(`Command.attach`), each as far down the right edge of the tree as the strength of its connective
asks for.

* `Flattens` is what the tokens and the rendering of a tree have in common: a node shows its
  operands with something between them. Such a view cannot tell a tree from its normal form
  (`Flattens.normal`).
* A tree that a line can have is told by its tokens and the mark of its root (`eq_of_tokens_eq`).

Results:
* `Command.shaped_normal`, `Command.foreground_normal`: the normal form has the parser's shape, and
  no background mark.
* `parse_render`: a rendered tree with plain words parses to its normal form.
* **`parse_render_normal_form`**: it is the only tree of the parser's shape with the tokens of the
  tree, its rendering is the same, and it comes back from it unchanged.
-/

namespace LineShell

open Grammar

/-! ## Normal forms -/

namespace Command

/-- A tree with one more simple command at its end. Connectives at least as strong as `op` stay
together on its left. -/
def attach (op : Connective) (body : SimpleCommand) : Command → Command
  | simple first background => (simple first background).join op (simple body false)
  | node op' left right background =>
    if op'.strength < op.strength then left.join op' (attach op body right)
    else (node op' left right background).join op (simple body false)

/-- A tree with the simple commands of another one at its end, from left to right. -/
def attachAll (op : Connective) (c : Command) : Command → Command
  | simple body _ => c.attach op body
  | node op' left right _ => (c.attachAll op left).attachAll op' right

/-- **The normal form**: the simple commands of a tree, bracketed anew. -/
def normal : Command → Command
  | simple body _ => simple body false
  | node op left right _ => left.normal.attachAll op right

end Command

/-! ### Views that forget the brackets -/

section Views

variable {α : Type} {view : Command → List α} {between : Connective → List α}

/-- The view of a node is that of its operands, with something between them that depends on the
connective. Background marks are not seen. -/
structure Flattens (view : Command → List α) (between : Connective → List α) : Prop where
  simple : ∀ body background, view (.simple body background) = view (.simple body false)
  node : ∀ op left right background,
    view (.node op left right background) = view left ++ between op ++ view right

theorem Flattens.attach (h : Flattens view between) (op : Connective) (body : SimpleCommand)
    (c : Command) :
    view (c.attach op body) = view c ++ between op ++ view (.simple body false) := by
  induction c with
  | simple first background => rw [Command.attach, Command.join, h.node]
  | node op' left right background _ ihr =>
    rw [Command.attach]
    split
    · rw [Command.join, h.node, ihr, h.node]
      simp only [List.append_assoc]
    · rw [Command.join, h.node]

theorem Flattens.attachAll (h : Flattens view between) (op : Connective) (c d : Command) :
    view (c.attachAll op d) = view c ++ between op ++ view d := by
  induction d generalizing op c with
  | simple body background => rw [Command.attachAll, h.attach, h.simple body background]
  | node op' left right background ihl ihr =>
    rw [Command.attachAll, ihr, ihl, h.node]
    simp only [List.append_assoc]

/-- **The brackets are not seen.** -/
theorem Flattens.normal (h : Flattens view between) (c : Command) : view c.normal = view c := by
  induction c with
  | simple body background => rw [Command.normal, h.simple body background]
  | node op left right background ihl _ => rw [Command.normal, h.attachAll, ihl, h.node]

end Views

namespace Command

theorem flattens_tokens : Flattens tokens fun op => [.symbol (.connective op)] where
  simple _ _ := rfl
  node _ _ _ _ := by simp [tokens]

theorem flattens_render : Flattens (fun c => c.render.toList) fun op => op.separator.toList where
  simple _ _ := rfl
  node _ _ _ _ := by simp [render]

@[simp] theorem tokens_normal (c : Command) : c.normal.tokens = c.tokens :=
  flattens_tokens.normal c

/-- **A tree and its normal form are rendered alike.** -/
@[simp] theorem render_normal (c : Command) : c.normal.render = c.render :=
  String.toList_injective (flattens_render.normal c)

/-! ### The shape of a normal form -/

theorem foreground_attach {c : Command} (h : c.Foreground) (op : Connective)
    (body : SimpleCommand) : (c.attach op body).Foreground := by
  induction c with
  | simple first background => exact ⟨rfl, h, rfl⟩
  | node op' left right background _ ihr =>
    rw [attach]
    split
    · exact ⟨rfl, h.2.1, ihr h.2.2⟩
    · exact ⟨rfl, h, rfl⟩

theorem foreground_attachAll {c : Command} (h : c.Foreground) (op : Connective) (d : Command) :
    (c.attachAll op d).Foreground := by
  induction d generalizing op c with
  | simple body background => exact foreground_attach h op body
  | node op' left right background ihl ihr => exact ihr (ihl h op) op'

theorem foreground_normal (c : Command) : c.normal.Foreground := by
  induction c with
  | simple body background => rfl
  | node op left right background ihl _ => exact foreground_attachAll ihl op right

theorem strength_lt_simple (op : Connective) : op.strength < 4 := by
  cases op <;> decide

/-- Attaching keeps the parser's shape. The root is the looser one of the connective and the root
before, so that it still binds tighter than a node above it does. -/
theorem shaped_attach {c : Command} (h : c.Shaped) (op : Connective) (body : SimpleCommand) :
    (c.attach op body).Shaped ∧ (c.attach op body).strength = min op.strength c.strength := by
  induction c with
  | simple first background =>
    have hop := strength_lt_simple op
    exact ⟨⟨⟨Nat.le_of_lt hop, hop⟩, trivial, trivial⟩, (Nat.min_eq_left (Nat.le_of_lt hop)).symm⟩
  | node op' left right background _ ihr =>
    obtain ⟨⟨hl, hr⟩, hsl, hsr⟩ := h
    obtain ⟨hshaped, hstrength⟩ := ihr hsr
    rw [attach]
    split
    · next hlt =>
      refine ⟨⟨⟨hl, ?_⟩, hsl, hshaped⟩, (Nat.min_eq_right (Nat.le_of_lt hlt)).symm⟩
      rw [hstrength]
      exact Nat.lt_min.mpr ⟨hlt, hr⟩
    · next hge =>
      have hle : op.strength ≤ op'.strength := Nat.le_of_not_lt hge
      exact ⟨⟨⟨hle, strength_lt_simple op⟩, ⟨⟨hl, hr⟩, hsl, hsr⟩, trivial⟩,
        (Nat.min_eq_left hle).symm⟩

theorem shaped_attachAll {c : Command} (h : c.Shaped) (op : Connective) (d : Command) :
    (c.attachAll op d).Shaped := by
  induction d generalizing op c with
  | simple body background => exact (shaped_attach h op body).1
  | node op' left right background ihl ihr => exact ihr (ihl h op) op'

/-- **A normal form has the parser's shape.** -/
theorem shaped_normal (c : Command) : c.normal.Shaped := by
  induction c with
  | simple body background => trivial
  | node op left right background ihl _ => exact shaped_attachAll ihl op right

end Command

/-! ## Trees and their tokens -/

theorem Command.Plain.of_tokens_eq {c d : Command} (h : c.Plain) (heq : d.tokens = c.tokens) :
    d.Plain :=
  fun _ hw => h _ (mem_words_of_mem_tokens (heq ▸ mem_tokens_of_mem_words hw))

theorem Command.Plain.writable {c : Command} (h : c.Plain) (hshaped : c.Shaped)
    (hforeground : c.Foreground) : c.Writable where
  shaped := hshaped
  named := h.name_ne_empty
  foreground := by rwa [setBackground_eq_self hforeground.isBackground_eq]

/-- **Trees of lines are told by their tokens** and the marks of their roots. -/
theorem eq_of_tokens_eq {c d : Command} (hc : c.Writable) (hd : d.Writable)
    (htokens : d.tokens = c.tokens) (hmark : d.isBackground = c.isBackground) : d = c := by
  have hline : Line (c.tokens ++ marks c.isBackground) d := by
    rw [← htokens, ← hmark]
    exact hd.line
  exact hline.unique hc.line

/-! ## Rendering and parsing -/

/-- **A rendered tree parses to its normal form**, if its words are plain. -/
theorem parse_render {c : Command} (h : c.Plain) : parse c.render = .ok c.normal := by
  have hnormal : c.normal.Plain := h.of_tokens_eq c.tokens_normal
  rw [← c.render_normal]
  exact parse_render_of_plain hnormal c.foreground_normal c.shaped_normal

/-- **Rendering and parsing is a normal form.** Let the words of a tree be plain. Its rendering has
the tokens of the tree, and it parses to the one tree of the parser's shape, without background
marks, that has the same tokens. This one is rendered alike and reads back unchanged, and the trees
that lead to it are those with the same tokens. -/
theorem parse_render_normal_form {t : Command} (h : t.Plain) :
    tokenize t.render = t.tokens ++ [.endOfInput] ∧
      ∃ c, parse t.render = .ok c ∧ (c.Shaped ∧ c.Foreground ∧ c.tokens = t.tokens) ∧
        (∀ d : Command, d.Shaped → d.Foreground → d.tokens = t.tokens → d = c) ∧
        c.render = t.render ∧ parse c.render = .ok c ∧
        ∀ u : Command, u.Plain → (parse u.render = .ok c ↔ u.tokens = t.tokens) := by
  have hnormal : t.normal.Plain := h.of_tokens_eq t.tokens_normal
  have unique : ∀ d : Command, d.Shaped → d.Foreground → d.tokens = t.tokens → d = t.normal := by
    intro d hshaped hforeground htokens
    have hc : t.normal.Writable := hnormal.writable t.shaped_normal t.foreground_normal
    have hd : d.Writable := (h.of_tokens_eq htokens).writable hshaped hforeground
    have hmark : d.isBackground = t.normal.isBackground := by
      rw [hforeground.isBackground_eq, t.foreground_normal.isBackground_eq]
    exact eq_of_tokens_eq hc hd (htokens.trans t.tokens_normal.symm) hmark
  refine ⟨?_, t.normal, parse_render h, ⟨t.shaped_normal, t.foreground_normal, t.tokens_normal⟩,
    unique, t.render_normal, ?_, fun u hu => ?_⟩
  · rw [tokenize, tokens, (reads_render h).tokens_eq]
  · rw [t.render_normal]
    exact parse_render h
  · rw [parse_render hu, Except.ok.injEq]
    constructor
    · intro heq
      rw [← u.tokens_normal, heq, t.tokens_normal]
    · intro htokens
      exact unique u.normal u.shaped_normal u.foreground_normal (u.tokens_normal.trans htokens)

/-- A sequence under a pipeline, in the background, with another row on the right:
`(a; b > f) | (c && d)` comes back as `a; ((b > f | c) && d)`. -/
theorem parse_render_against_strengths :
    let leaf (name : String) : Command := .simple ⟨name, [], []⟩ false
    let b : Command := .simple ⟨"b", [], [⟨.output, "f"⟩]⟩ false
    let t : Command :=
      .node .pipeline (.node .sequence (leaf "a") b true)
        (.node .and (leaf "c") (leaf "d") false) true
    let c : Command :=
      (leaf "a").join .sequence ((b.join .pipeline (leaf "c")).join .and (leaf "d"))
    t.Plain ∧ parse t.render = .ok c ∧ c.tokens = t.tokens ∧ c.render = t.render := by
  intro leaf b t c
  have hplain : t.Plain := by decide
  obtain ⟨-, d, hd, -, unique, -⟩ := parse_render_normal_form hplain
  have hc : c = d := unique c (by decide) (by decide) (by decide)
  subst hc
  exact ⟨hplain, hd, by decide, by decide⟩

end LineShell
