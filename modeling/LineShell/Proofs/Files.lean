import LineShell.FileTree

/-!
# What operations on files leave as it was

Every path that leads somewhere leads to the same place as long as the directories on its way stay
(`walk_mono`, `place_mono`). So a file is found again after directories were made, after other files
were written, and after more content went to one of them.

`Grows` says that a tree has become another one by new directories alone, and `GrowsAlong` that they
are on given paths. Making directories does nothing else, even where it fails half-way. `SameBut`
says that two trees differ in the content of one file at most. All that is done with the other files
goes the same way in both. Appending leaves such a tree.

Results:
* `read_eq_ok_iff`, `openForWriting_eq_ok`: what it takes to read a file, and to open one.
* `growsAlong_makeDirectory`, **`growsAlong_makeDirectories`**: only directories are added, and only
  where the path or one of its parents leads.
* `Grows.read`, **`SameBut.read`**, `SameBut.openForWriting`: a file that is not touched reads as
  before, and opening goes the same way.
* `sameBut_append`: appending changes one file.
* **`read_write`**: what is written to a file that was opened at a path is read there.
-/

namespace LineShell

namespace FileTree

variable {t t' t'' : FileTree} {p : Path} {loc log : Location} {content bytes : Bytes}

/-! ## Seeking -/

theorem seek_eq_ok_iff {found : Option Entry} :
    t.seek loc = .ok found ↔
      loc.getLast?.any Path.stepTooLong = false ∧ t.entryAt loc = found := by
  unfold seek
  split
  · rename_i hlong
    simp [hlong]
  · rename_i hshort
    simp [hshort]

/-- Another tree with the same entry at the location. -/
theorem seek_congr (h : t'.entryAt loc = t.entryAt loc) : t'.seek loc = t.seek loc := by
  rw [seek, seek, h]

theorem isTop_eq_false (h : t.entryAt loc ≠ some .directory) : loc.isTop = false := by
  refine eq_false_of_ne_true fun htop => h ?_
  rw [entryAt, if_pos htop]

/-! ## Paths that lead somewhere -/

/-- **A walk that succeeds** goes the same way as long as the directories stay. -/
theorem walk_mono (hdir : ∀ loc, t.entryAt loc = some .directory → t'.entryAt loc = some .directory)
    {here : Location} {steps : List String} (h : t.walk here steps = .ok loc) :
    t'.walk here steps = .ok loc := by
  induction steps generalizing here with
  | nil => exact h
  | cons step more ih =>
    unfold walk at h ⊢
    split
    · rename_i hdot
      rw [if_pos hdot] at h
      exact ih h
    · rename_i hdot
      rw [if_neg hdot] at h
      split
      · rename_i hdots
        rw [if_pos hdots] at h
        exact ih h
      · rename_i hdots
        rw [if_neg hdots] at h
        -- only a directory lets the walk go on
        cases hseek : t.seek (here ++ [step]) with
        | error e => simp [hseek] at h
        | ok found =>
          obtain ⟨hshort, hfound⟩ := seek_eq_ok_iff.mp hseek
          rcases found with _ | _ | old
          · simp [hseek] at h
          · rw [hseek] at h
            rw [seek_eq_ok_iff.mpr ⟨hshort, hdir _ hfound⟩]
            exact ih h
          · simp [hseek] at h

theorem place_mono
    (hdir : ∀ loc, t.entryAt loc = some .directory → t'.entryAt loc = some .directory)
    {found : Place} (h : t.place p = .ok found) : t'.place p = .ok found := by
  unfold place at h ⊢
  split
  · rename_i hlong
    simp [hlong] at h
  · rename_i hshort
    rw [if_neg hshort] at h
    split
    · rename_i hnone
      rwa [hnone] at h
    · rename_i last hlast
      rw [hlast] at h
      dsimp only at h
      cases hwalk : t.walk (.start p) p.steps.dropLast with
      | error e => simp [hwalk] at h
      | ok here =>
        rw [walk_mono hdir hwalk]
        rwa [hwalk] at h

/-- **What it takes to read a file.** -/
theorem read_eq_ok_iff :
    t.read p = .ok content ↔
      ∃ loc, t.place p = .ok (.name loc) ∧ t.seek loc = .ok (some (.file content)) ∧
        p.endsInSlash = false := by
  unfold read find
  rcases hplace : t.place p with e | _ | loc
  · simp
  · simp
  · rcases hseek : t.seek loc with e | _ | _ | old
    · simp [hseek]
    · simp [hseek]
    · simp [hseek]
    · cases hslash : p.endsInSlash <;> simp [hseek]

/-- **What it takes to open a file for writing**, and what comes of it. -/
theorem openForWriting_eq_ok (h : t.openForWriting p = .ok (loc, t')) :
    t.place p = .ok (.name loc) ∧ p.endsInSlash = false ∧
      ((∃ old, t.seek loc = .ok (some (.file old)) ∧ t' = t) ∨
        t.seek loc = .ok none ∧ t' = t.insert loc (.file [])) := by
  unfold openForWriting at h
  rcases hplace : t.place p with e | _ | here
  · simp [hplace] at h
  · simp [hplace] at h
  · rw [hplace] at h
    cases hslash : p.endsInSlash with
    | true => simp [hslash] at h
    | false =>
      rcases hseek : t.seek here with e | _ | _ | old
      · simp [hslash, hseek] at h
      · simp only [hslash, hseek, Bool.false_eq_true, if_false, Except.ok.injEq,
          Prod.mk.injEq] at h
        obtain ⟨rfl, rfl⟩ := h
        exact ⟨rfl, rfl, .inr ⟨hseek, rfl⟩⟩
      · simp [hslash, hseek] at h
      · simp only [hslash, hseek, Bool.false_eq_true, if_false, Except.ok.injEq,
          Prod.mk.injEq] at h
        obtain ⟨rfl, rfl⟩ := h
        exact ⟨rfl, rfl, .inl ⟨old, hseek, rfl⟩⟩

/-! ## New directories -/

/-- **The tree has grown by directories**: where there is something new, there was nothing. -/
def Grows (t t' : FileTree) : Prop :=
  ∀ loc, t'.entryAt loc = t.entryAt loc ∨
    t.entryAt loc = none ∧ t'.entryAt loc = some .directory

theorem Grows.refl (t : FileTree) : Grows t t :=
  fun _ => .inl rfl

theorem Grows.entryAt (h : Grows t t') {e : Entry} (he : t.entryAt loc = some e) :
    t'.entryAt loc = some e := by
  rcases h loc with hsame | ⟨hnone, -⟩
  · rw [hsame, he]
  · simp [he] at hnone

theorem Grows.file_iff (h : Grows t t') :
    t'.entryAt loc = some (.file content) ↔ t.entryAt loc = some (.file content) := by
  rcases h loc with hsame | ⟨hnone, hdirectory⟩
  · rw [hsame]
  · simp [hnone, hdirectory]

theorem Grows.trans (h : Grows t t') (h' : Grows t' t'') : Grows t t'' := by
  intro loc
  rcases h loc with hsame | ⟨hnone, hdirectory⟩
  · rw [← hsame]
    exact h' loc
  · exact .inr ⟨hnone, h'.entryAt hdirectory⟩

/-- **The tree has grown along the paths `ps`**: it has grown, and one of these paths leads to each
of the new directories. -/
def GrowsAlong (ps : List Path) (t t' : FileTree) : Prop :=
  ∀ loc, t'.entryAt loc = t.entryAt loc ∨
    t.entryAt loc = none ∧ t'.entryAt loc = some .directory ∧
      ∃ p ∈ ps, t'.place p = .ok (.name loc)

namespace GrowsAlong

variable {ps qs : List Path}

theorem refl (ps : List Path) (t : FileTree) : GrowsAlong ps t t :=
  fun _ => .inl rfl

theorem grows (h : GrowsAlong ps t t') : Grows t t' := by
  intro loc
  rcases h loc with hsame | ⟨hnone, hdirectory, -⟩
  · exact .inl hsame
  · exact .inr ⟨hnone, hdirectory⟩

theorem mono (h : GrowsAlong ps t t') (hps : ps ⊆ qs) : GrowsAlong qs t t' := by
  intro loc
  rcases h loc with hsame | ⟨hnone, hdirectory, p, hp, hplace⟩
  · exact .inl hsame
  · exact .inr ⟨hnone, hdirectory, p, hps hp, hplace⟩

theorem trans (h : GrowsAlong ps t t') (h' : GrowsAlong ps t' t'') : GrowsAlong ps t t'' := by
  intro loc
  rcases h loc with hsame | ⟨hnone, hdirectory, p, hp, hplace⟩
  · rw [← hsame]
    exact h' loc
  · exact .inr ⟨hnone, h'.grows.entryAt hdirectory, p, hp,
      place_mono (fun _ => h'.grows.entryAt) hplace⟩

end GrowsAlong

theorem growsAlong_makeDirectory (h : t.makeDirectory p = .ok t') : GrowsAlong [p] t t' := by
  unfold makeDirectory at h
  rcases hplace : t.place p with e | _ | here
  · simp [hplace] at h
  · simp [hplace] at h
  · rw [hplace] at h
    rcases hseek : t.seek here with e | _ | found
    · simp [hseek] at h
    · obtain ⟨-, hnone⟩ := seek_eq_ok_iff.mp hseek
      simp only [hseek, Except.ok.injEq] at h
      subst h
      have hother : ∀ loc ≠ here, (t.insert here .directory).entryAt loc = t.entryAt loc :=
        fun loc hloc => entryAt_insert_of_ne t hloc _
      intro loc
      by_cases hloc : loc = here
      · subst hloc
        refine .inr ⟨hnone, entryAt_insert_self t (isTop_eq_false (t := t) (by simp [hnone])) _, p,
          List.mem_singleton_self p, place_mono (fun loc' hloc' => ?_) hplace⟩
        rw [hother loc' fun heq => by simp [heq, hnone] at hloc', hloc']
      · exact .inl (hother loc hloc)
    · simp [hseek] at h

theorem growsAlong_makeAll (t : FileTree) (ps : List Path) : GrowsAlong ps t (t.makeAll ps).1 := by
  induction ps generalizing t with
  | nil => exact .refl _ t
  | cons p outer ih =>
    have hp : [p] ⊆ p :: outer := List.cons_subset_cons p (List.nil_subset outer)
    unfold makeAll
    split
    · exact .refl _ t
    · split
      · rename_i hmade
        exact (growsAlong_makeDirectory hmade).mono hp
      · -- the directory around it is made first
        have houter := (ih t).mono (List.subset_cons_self p outer)
        split
        · rename_i hall
          rwa [hall] at houter
        · rename_i hall
          rw [hall] at houter
          split
          · rename_i hmade
            exact houter.trans ((growsAlong_makeDirectory hmade).mono hp)
          · exact houter
      · exact .refl _ t

/-- **Making directories adds directories on the way**, and nothing else, whether it succeeds or
not. -/
theorem growsAlong_makeDirectories (t : FileTree) (p : Path) :
    GrowsAlong (p :: p.parents) t (t.makeDirectories p).1 :=
  growsAlong_makeAll t _

/-! ## Reading -/

/-- A file is read as before if the directories and that file are still there. -/
theorem read_mono (hdir : ∀ loc, t.entryAt loc = some .directory → t'.entryAt loc = some .directory)
    (hfile : ∀ loc, t.place p = .ok (.name loc) → t.entryAt loc = some (.file content) →
      t'.entryAt loc = some (.file content))
    (h : t.read p = .ok content) : t'.read p = .ok content := by
  obtain ⟨loc, hplace, hseek, hslash⟩ := read_eq_ok_iff.mp h
  obtain ⟨hshort, hentry⟩ := seek_eq_ok_iff.mp hseek
  exact read_eq_ok_iff.mpr ⟨loc, place_mono hdir hplace,
    seek_eq_ok_iff.mpr ⟨hshort, hfile loc hplace hentry⟩, hslash⟩

theorem Grows.read (h : Grows t t') (hread : t.read p = .ok content) : t'.read p = .ok content :=
  read_mono (fun _ => h.entryAt) (fun _ _ => h.entryAt) hread

/-! ## Opening and writing -/

theorem entryAt_of_openForWriting (h : t.openForWriting p = .ok (log, t')) {e : Entry}
    (he : t.entryAt loc = some e) : t'.entryAt loc = some e := by
  obtain ⟨-, -, ⟨old, -, rfl⟩ | ⟨hseek, rfl⟩⟩ := openForWriting_eq_ok h
  · exact he
  · obtain ⟨-, hnone⟩ := seek_eq_ok_iff.mp hseek
    have hloc : loc ≠ log := fun heq => by simp [heq, hnone] at he
    rw [entryAt_insert_of_ne t hloc, he]

theorem entryAt_openForWriting_of_ne (h : t.openForWriting p = .ok (log, t')) (hloc : loc ≠ log) :
    t'.entryAt loc = t.entryAt loc := by
  obtain ⟨-, -, ⟨old, -, rfl⟩ | ⟨-, rfl⟩⟩ := openForWriting_eq_ok h
  · rfl
  · exact entryAt_insert_of_ne t hloc _

/-- A file that was opened stands where its path leads, and nothing but a file stood there. -/
theorem seek_of_openForWriting (h : t.openForWriting p = .ok (loc, t')) :
    loc.getLast?.any Path.stepTooLong = false ∧ t.entryAt loc ≠ some .directory := by
  obtain ⟨-, -, ⟨old, hseek, -⟩ | ⟨hseek, -⟩⟩ := openForWriting_eq_ok h
  · obtain ⟨hshort, hentry⟩ := seek_eq_ok_iff.mp hseek
    exact ⟨hshort, by simp [hentry]⟩
  · obtain ⟨hshort, hentry⟩ := seek_eq_ok_iff.mp hseek
    exact ⟨hshort, by simp [hentry]⟩

/-- A path leads to the same place after its file was written. -/
theorem place_write (h : t.openForWriting p = .ok (loc, t')) (content : Bytes) :
    (t'.write loc content).place p = .ok (.name loc) := by
  refine place_mono (t := t) (fun here hhere => ?_) (openForWriting_eq_ok h).1
  -- no directory was at the location of the file, so none is gone
  have hne : here ≠ loc := fun heq => (seek_of_openForWriting h).2 (heq ▸ hhere)
  rw [write, entryAt_insert_of_ne t' hne, entryAt_of_openForWriting h hhere]

/-- **What is written is read.** -/
theorem read_write (h : t.openForWriting p = .ok (loc, t')) (content : Bytes) :
    (t'.write loc content).read p = .ok content := by
  obtain ⟨hshort, hfile⟩ := seek_of_openForWriting h
  exact read_eq_ok_iff.mpr ⟨loc, place_write h content, seek_eq_ok_iff.mpr
    ⟨hshort, entryAt_insert_self t' (isTop_eq_false hfile) _⟩, (openForWriting_eq_ok h).2.1⟩

/-- A file that can be read can be opened for writing. -/
theorem openForWriting_of_read (h : t.read p = .ok content) :
    ∃ loc, t.openForWriting p = .ok (loc, t) := by
  obtain ⟨loc, hplace, hseek, hslash⟩ := read_eq_ok_iff.mp h
  refine ⟨loc, ?_⟩
  simp [openForWriting, hplace, hslash, hseek]

/-! ## Trees that differ in one file -/

/-- **The trees differ in one file at most**, the one at `log`. It is a file in both. -/
def SameBut (log : Location) (t t' : FileTree) : Prop :=
  ∀ loc, t'.entryAt loc = t.entryAt loc ∨
    loc = log ∧ ∃ old new, t.entryAt loc = some (.file old) ∧ t'.entryAt loc = some (.file new)

namespace SameBut

theorem symm (h : SameBut log t t') : SameBut log t' t := by
  intro loc
  rcases h loc with hsame | ⟨hloc, old, new, hold, hnew⟩
  · exact .inl hsame.symm
  · exact .inr ⟨hloc, new, old, hnew, hold⟩

theorem trans (h : SameBut log t t') (h' : SameBut log t' t'') : SameBut log t t'' := by
  intro loc
  rcases h loc with hsame | ⟨hloc, old, new, hold, hnew⟩
  · rw [← hsame]
    exact h' loc
  · rcases h' loc with hsame' | ⟨-, -, new', -, hnew'⟩
    · exact .inr ⟨hloc, old, new, hold, hsame'.trans hnew⟩
    · exact .inr ⟨hloc, old, new', hold, hnew'⟩

theorem entryAt_of_ne (h : SameBut log t t') (hloc : loc ≠ log) :
    t'.entryAt loc = t.entryAt loc :=
  (h loc).resolve_right fun hfile => hloc hfile.1

theorem insert (h : SameBut log t t') (loc : Location) (e : Entry) :
    SameBut log (t.insert loc e) (t'.insert loc e) := by
  intro here
  by_cases hhere : here = loc
  · subst hhere
    refine .inl ?_
    cases htop : here.isTop with
    | true => simp only [entryAt, htop, if_true]
    | false => rw [entryAt_insert_self t htop, entryAt_insert_self t' htop]
  · rw [entryAt_insert_of_ne t hhere, entryAt_insert_of_ne t' hhere]
    exact h here

/-- **Every way is the same**, and every failure on it. -/
theorem walk (h : SameBut log t t') (here : Location) (steps : List String) :
    t'.walk here steps = t.walk here steps := by
  induction steps generalizing here with
  | nil => rfl
  | cons step more ih =>
    unfold FileTree.walk
    simp only [ih]
    rcases h (here ++ [step]) with hsame | ⟨-, old, new, hold, hnew⟩
    · rw [seek_congr hsame]
    · -- there is no way through a file, whatever it holds
      simp only [seek, hold, hnew]
      cases (here ++ [step]).getLast?.any Path.stepTooLong <;> rfl

theorem place (h : SameBut log t t') (p : Path) : t'.place p = t.place p := by
  unfold FileTree.place
  simp only [h.walk]

/-- **Another file reads as before**, and fails to be read as before. -/
theorem read (h : SameBut log t t') (hp : t.place p ≠ .ok (.name log)) :
    t'.read p = t.read p := by
  unfold FileTree.read find
  rw [h.place]
  rcases hplace : t.place p with e | _ | loc
  · rfl
  · rfl
  · have hloc : loc ≠ log := fun heq => hp (heq ▸ hplace)
    dsimp only
    rw [seek_congr (h.entryAt_of_ne hloc)]

/-- **Opening a file goes the same way in both**, and leaves trees that differ in no other file. -/
theorem openForWriting (h : SameBut log t t') (p : Path) :
    (∃ e, t.openForWriting p = .error e ∧ t'.openForWriting p = .error e) ∨
      ∃ loc u u', t.openForWriting p = .ok (loc, u) ∧ t'.openForWriting p = .ok (loc, u') ∧
        SameBut log u u' := by
  unfold FileTree.openForWriting
  rw [h.place]
  rcases t.place p with e | _ | loc
  · exact .inl ⟨e, rfl, rfl⟩
  · exact .inl ⟨.isADirectory, rfl, rfl⟩
  · cases p.endsInSlash with
    | true => exact .inl ⟨.isADirectory, rfl, rfl⟩
    | false =>
      rcases h loc with hsame | ⟨-, old, new, hold, hnew⟩
      · dsimp only
        rw [seek_congr hsame]
        rcases t.seek loc with e | _ | _ | old
        · exact .inl ⟨e, rfl, rfl⟩
        · exact .inr ⟨loc, _, _, rfl, rfl, h.insert loc _⟩
        · exact .inl ⟨.isADirectory, rfl, rfl⟩
        · exact .inr ⟨loc, _, _, rfl, rfl, h⟩
      · simp only [seek, hold, hnew]
        cases loc.getLast?.any Path.stepTooLong with
        | true => exact .inl ⟨.nameTooLong, rfl, rfl⟩
        | false => exact .inr ⟨loc, _, _, rfl, rfl, h⟩

end SameBut

/-! ## Appending -/

/-- A file gets longer. -/
theorem entryAt_append_self (h : t.entryAt log = some (.file content)) (bytes : Bytes) :
    (t.append log bytes).entryAt log = some (.file (content ++ bytes)) := by
  unfold append
  rw [h]
  exact entryAt_insert_self t (isTop_eq_false (t := t) (by simp [h])) _

/-- **Appending changes one file at most.** -/
theorem sameBut_append (t : FileTree) (log : Location) (bytes : Bytes) :
    SameBut log t (t.append log bytes) := by
  intro loc
  by_cases hloc : loc = log
  · subst hloc
    rcases hentry : t.entryAt loc with _ | _ | old
    · exact .inl (by simp [append, hentry])
    · exact .inl (by simp [append, hentry])
    · exact .inr ⟨rfl, old, _, rfl, entryAt_append_self hentry bytes⟩
  · refine .inl ?_
    unfold append
    split
    · exact entryAt_insert_of_ne t hloc _
    · rfl

theorem SameBut.append (h : SameBut log t t') (bytes bytes' : Bytes) :
    SameBut log (t.append log bytes) (t'.append log bytes') :=
  ((sameBut_append t log bytes).symm.trans h).trans (sameBut_append t' log bytes')

theorem entryAt_append_of_ne (t : FileTree) (h : loc ≠ log) (bytes : Bytes) :
    (t.append log bytes).entryAt loc = t.entryAt loc :=
  (sameBut_append t log bytes).entryAt_of_ne h

theorem place_append (t : FileTree) (log : Location) (bytes : Bytes) (p : Path) :
    (t.append log bytes).place p = t.place p :=
  (sameBut_append t log bytes).place p

theorem read_append (t : FileTree) (h : t.place p ≠ .ok (.name log)) (bytes : Bytes) :
    (t.append log bytes).read p = t.read p :=
  (sameBut_append t log bytes).read h

end FileTree

end LineShell
