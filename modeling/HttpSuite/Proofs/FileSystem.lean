import HttpSuite.FileTree
import HttpSuite.Proofs.Path

/-!
# Replacing a file

A file is replaced by way of a hidden one beside it. What that does to the files is proved here for
every file system that keeps what operating systems promise of writing, moving and removing files
(`View.Lawful`): a write that fails may leave anything at its own path, a move happens as a whole or
not at all.

* `View.replace_failed`: a replacement that fails changes nothing, except at the hidden file if
  there was one before.
* `View.replace_done`: one that succeeds leaves the new content, and no hidden file.
-/

namespace HttpSuite.FileSystem

open FileTree (Node)

/-- Where files are: what stands at a place, the place that a path to a file leads to, and the name
that a place has in its folder. -/
structure View (φ π : Type) where
  node? : φ → π → Option Node
  place? : φ → String → Option π
  name : π → String

namespace View

variable {φ π : Type} {v : View φ π} {s s₁ s₂ : φ} {path : String}

/-- All paths lead where they led, and all places hold what they held but for some of them. -/
structure Frame (v : View φ π) (touched : π → Prop) (s s' : φ) : Prop where
  node?_eq : ∀ p, ¬ touched p → v.node? s' p = v.node? s p
  place?_eq : ∀ path, v.place? s' path = v.place? s path

namespace Frame

variable {touched touched' : π → Prop}

theorem refl (s : φ) : v.Frame touched s s := ⟨fun _ _ => rfl, fun _ => rfl⟩

theorem trans (h₁ : v.Frame touched s s₁) (h₂ : v.Frame touched s₁ s₂) : v.Frame touched s s₂ :=
  ⟨fun p hp => (h₂.node?_eq p hp).trans (h₁.node?_eq p hp),
    fun path => (h₂.place?_eq path).trans (h₁.place?_eq path)⟩

theorem mono (h : v.Frame touched s s₁) (hsub : ∀ p, touched p → touched' p) :
    v.Frame touched' s s₁ :=
  ⟨fun p hp => h.node?_eq p fun ht => hp (hsub p ht), h.place?_eq⟩

end Frame

/-- **What an operating system promises.** Without symbolic links, a path leads to a file of its own
name. Writing, moving and removing touch the places of their paths only. -/
structure Lawful [FileSystem φ] (v : View φ π) : Prop where
  name_of_place? : ∀ {s path p}, v.place? s path = some p →
    ∃ parts, Path.parts? path = some parts ∧ parts.name = v.name p
  write_frame : ∀ {s s' path content done}, FileSystem.write s path content = (done, s') →
    v.Frame (v.place? s path = some ·) s s'
  write_done : ∀ {s s' path content}, FileSystem.write s path content = (true, s') →
    ∃ p, v.place? s path = some p ∧ v.node? s' p = some (.file content)
  /-- A write that fails may leave any content where nothing was. -/
  write_failed : ∀ {s s' path content p}, FileSystem.write s path content = (false, s') →
    v.place? s path = some p → v.node? s p = none →
    v.node? s' p = none ∨ ∃ left, v.node? s' p = some (.file left)
  /-- A move that fails changes nothing. -/
  rename_failed : ∀ {s s' source target}, FileSystem.rename s source target = (false, s') →
    v.Frame (fun _ => False) s s'
  /-- A move that succeeds puts the file in the place of what was there. -/
  rename_done : ∀ {s s' source target a content},
    FileSystem.rename s source target = (true, s') →
    v.place? s source = some a → v.node? s a = some (.file content) →
    ∃ b, v.place? s target = some b ∧ v.Frame (fun p => p = a ∨ p = b) s s' ∧
      v.node? s' b = some (.file content) ∧ (a ≠ b → v.node? s' a = none)
  remove_frame : ∀ s path, v.Frame (v.place? s path = some ·) s (FileSystem.remove s path)
  /-- Removing a file leaves nothing in its place. -/
  remove_file : ∀ {s path p}, v.place? s path = some p → v.node? s p ≠ some .folder →
    v.node? (FileSystem.remove s path) p = none

/-- A temporary file is another file than the one it stands beside. -/
theorem Lawful.temporary_ne [FileSystem φ] (hv : v.Lawful) {a b : π}
    (ha : v.place? s (Path.temporary path) = some a) (hb : v.place? s path = some b) : a ≠ b := by
  rintro rfl
  obtain ⟨parts, hparts, hname⟩ := hv.name_of_place? hb
  obtain ⟨hidden, hhidden, hname'⟩ := Path.name_temporary hparts
  obtain ⟨parts', hparts', hname''⟩ := hv.name_of_place? ha
  rw [hhidden] at hparts'
  cases hparts'
  exact Path.temporary_name_ne parts.name (by rw [← hname', hname'', hname])

end View

/-- Replaces a file by way of the hidden one beside it, which is removed if that fails. -/
def replace {φ : Type} [FileSystem φ] (s : φ) (path text : String) : Bool × φ :=
  let temporary := Path.temporary path
  let (written, s₁) := FileSystem.write s temporary text.toUTF8
  let (done, s₂) := if written then FileSystem.rename s₁ temporary path else (false, s₁)
  (done, if done then s₂ else FileSystem.remove s₂ temporary)

namespace View

variable {φ π : Type} [FileSystem φ] {v : View φ π} {s s' s₁ : φ} {path text : String}

/-- A replacement ends at the write, at the move that fails, or at the move that succeeds. -/
theorem replace_cases {done : Bool} (h : replace s path text = (done, s')) :
    (∃ s₁, FileSystem.write s (Path.temporary path) text.toUTF8 = (false, s₁) ∧ done = false ∧
      s' = FileSystem.remove s₁ (Path.temporary path)) ∨
    (∃ s₁ s₂, FileSystem.write s (Path.temporary path) text.toUTF8 = (true, s₁) ∧
      FileSystem.rename s₁ (Path.temporary path) path = (false, s₂) ∧ done = false ∧
      s' = FileSystem.remove s₂ (Path.temporary path)) ∨
    (∃ s₁, FileSystem.write s (Path.temporary path) text.toUTF8 = (true, s₁) ∧
      FileSystem.rename s₁ (Path.temporary path) path = (true, s') ∧ done = true) := by
  unfold replace at h
  -- two operations can fail: writing the temporary file, then moving it to the destination
  rcases hw : FileSystem.write s (Path.temporary path) text.toUTF8 with ⟨written, s₁⟩
  simp only [hw] at h
  cases written with
  | false =>
    simp only [Bool.false_eq_true, if_false, Prod.mk.injEq] at h
    exact .inl ⟨s₁, rfl, h.1.symm, h.2.symm⟩
  | true =>
    rcases hr : FileSystem.rename s₁ (Path.temporary path) path with ⟨moved, s₂⟩
    simp only [if_true, hr, Prod.mk.injEq] at h
    cases moved with
    | false => exact .inr (.inl ⟨s₁, s₂, rfl, hr, h.1.symm, h.2.symm⟩)
    | true =>
      obtain ⟨rfl, rfl⟩ := h
      exact .inr (.inr ⟨s₁, rfl, hr, rfl⟩)

/-- Removing the hidden file where nothing was, or a file that a replacement left. -/
theorem Lawful.remove_temporary (hv : v.Lawful)
    (hframe : v.Frame (v.place? s (Path.temporary path) = some ·) s s₁)
    (hleft : ∀ p, v.place? s (Path.temporary path) = some p → v.node? s p = none →
      v.node? s₁ p ≠ some .folder) :
    v.Frame (v.place? s (Path.temporary path) = some ·) s
        (FileSystem.remove s₁ (Path.temporary path)) ∧
      ∀ p, v.place? s (Path.temporary path) = some p → v.node? s p = none →
        v.node? (FileSystem.remove s₁ (Path.temporary path)) p = none := by
  have hremove := hv.remove_frame s₁ (Path.temporary path)
  rw [hframe.place?_eq] at hremove
  refine ⟨hframe.trans hremove, fun p hp hnone => ?_⟩
  rw [← hframe.place?_eq] at hp
  exact hv.remove_file hp (hleft p (by rw [← hframe.place?_eq]; exact hp) hnone)

/-- **A replacement that fails** changes nothing but the hidden file, and leaves none where there
was none. -/
theorem replace_failed (hv : v.Lawful) (h : replace s path text = (false, s')) :
    v.Frame (v.place? s (Path.temporary path) = some ·) s s' ∧
      ∀ p, v.place? s (Path.temporary path) = some p → v.node? s p = none →
        v.node? s' p = none := by
  rcases replace_cases h with ⟨s₁, hw, -, rfl⟩ | ⟨s₁, s₂, hw, hr, -, rfl⟩ | ⟨s₁, -, -, hd⟩
  · -- whatever part was written is a file, and is removed
    refine hv.remove_temporary (hv.write_frame hw) fun p hp hnone => ?_
    rcases hv.write_failed hw hp hnone with hnode | ⟨left, hnode⟩ <;> rw [hnode] <;> simp
  · -- the file was written and is still there, since the move changed nothing
    have hframe := hv.write_frame hw
    have hmove := hv.rename_failed hr
    refine hv.remove_temporary (hframe.trans (hmove.mono fun _ => False.elim)) fun p hp _ => ?_
    obtain ⟨a, ha, hnode⟩ := hv.write_done hw
    rw [hp] at ha
    cases ha
    rw [hmove.node?_eq p id, hnode]
    simp
  · cases hd

/-- **A replacement that succeeds** leaves the new content at the path and no hidden file. -/
theorem replace_done (hv : v.Lawful) (h : replace s path text = (true, s')) :
    ∃ a b, v.place? s (Path.temporary path) = some a ∧ v.place? s path = some b ∧
      v.Frame (fun p => p = a ∨ p = b) s s' ∧
      v.node? s' b = some (.file text.toUTF8) ∧ v.node? s' a = none := by
  rcases replace_cases h with ⟨s₁, -, hd, -⟩ | ⟨s₁, s₂, -, -, hd, -⟩ | ⟨s₁, hw, hr, -⟩
  · cases hd
  · cases hd
  · have hframe := hv.write_frame hw
    obtain ⟨a, ha, hnode⟩ := hv.write_done hw
    obtain ⟨b, hb, hmove, hnew, hgone⟩ :=
      hv.rename_done hr (by rw [hframe.place?_eq]; exact ha) hnode
    rw [hframe.place?_eq] at hb
    refine ⟨a, b, ha, hb, Frame.trans (hframe.mono fun p hp => ?_) hmove, hnew,
      hgone (hv.temporary_ne ha hb)⟩
    rw [ha] at hp
    cases hp
    exact .inl rfl

end View

end HttpSuite.FileSystem
