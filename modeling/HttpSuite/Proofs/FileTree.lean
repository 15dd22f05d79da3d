import HttpSuite.Proofs.FileSystem

/-!
# File trees are lawful

Files and folders in memory keep what operating systems promise, so what is proved of every lawful
file system holds of them.

* `FileTree.locate_congr`: paths lead by folders alone.
* `FileTree.lawful`: the laws.
-/

namespace HttpSuite.FileTree

open FileSystem (View)

variable {t t' : FileTree} {place p : List String} {path : String}

theorem node?_put_self (h : place ≠ []) (n : Node) : (t.put place n).node? place = some n := by
  have hfind := Table.find?_put_self Prod.fst (place, n) t.nodes
  simp only at hfind
  simp [node?, put, h, hfind]

theorem node?_put_of_ne (h : p ≠ place) (n : Node) : (t.put place n).node? p = t.node? p := by
  have hfind := Table.find?_put_of_ne Prod.fst (a := (place, n)) h t.nodes
  simp [node?, put, hfind]

theorem node?_erase_self (h : place ≠ []) : (t.erase place).node? place = none := by
  simp [node?, erase, h, Table.find?]

theorem node?_erase_of_ne (h : p ≠ place) : (t.erase place).node? p = t.node? p := by
  have hfind : Table.find? Prod.fst p (t.nodes.filter fun e => e.1 ≠ place) =
      Table.find? Prod.fst p t.nodes := by
    unfold Table.find?
    rw [List.find?_filter]
    congr 1
    funext e
    by_cases he : e.1 = p
    · simp [he, h]
    · simp [he]
  simp only [node?, erase, hfind]

theorem isFolder_of_node? (h : t'.node? p = t.node? p) : t'.isFolder p = t.isFolder p := by
  simp [isFolder, h]

theorem node?_of_content? {content : ByteArray} (h : t.content? p = some content) :
    t.node? p = some (.file content) := by
  unfold content? at h
  split at h
  · rename_i hn
    rw [hn]
    cases h
    rfl
  · cases h

/-- A walk looks at the folders on its way only. -/
theorem walk_congr (hf : ∀ p, t'.isFolder p = t.isFolder p) (here segments : List String) :
    t'.walk here segments = t.walk here segments := by
  induction segments generalizing here with
  | nil => rfl
  | cons segment rest ih =>
    unfold walk
    simp only [ih, hf]

/-- Paths lead by folders alone. -/
theorem locate_congr (hc : t'.current = t.current) (hf : ∀ p, t'.isFolder p = t.isFolder p)
    (path : String) : t'.locate path = t.locate path := by
  unfold locate
  rw [hc, walk_congr hf]

/-- A walk to a file ends with its name. -/
theorem walk_eq_some {here segments : List String} (h : t.walk here segments = some p) :
    ∃ folders name above, segments = folders ++ [name] ∧ name ≠ "" ∧ name ≠ "." ∧ name ≠ ".." ∧
      p = above ++ [name] := by
  induction segments generalizing here with
  | nil => simp [walk] at h
  | cons segment rest ih =>
    have further : ∀ {here}, t.walk here rest = some p →
        ∃ folders name above, segment :: rest = folders ++ [name] ∧ name ≠ "" ∧ name ≠ "." ∧
          name ≠ ".." ∧ p = above ++ [name] := by
      intro here h
      obtain ⟨folders, name, above, hs, hname⟩ := ih h
      exact ⟨segment :: folders, name, above, by rw [hs, List.cons_append], hname⟩
    unfold walk at h
    -- a blank segment, a dot and two dots lead on; the last of the others is the name
    split at h
    · exact further h
    · rename_i hskip
      split at h
      · exact further h
      · rename_i hup
        split at h
        · cases h
        · split at h
          · rename_i hrest
            cases h
            exact ⟨[], segment, here, by rw [hrest]; rfl, fun he => hskip (.inl he),
              fun he => hskip (.inr he), hup, rfl⟩
          · split at h
            · exact further h
            · cases h

/-- The place that a path leads to ends with the last segment of the path. -/
theorem locate_eq_some (h : t.locate path = some p) :
    ∃ folders name above, Path.segments path = folders ++ [name] ∧ name ≠ "" ∧ name ≠ "." ∧
      name ≠ ".." ∧ p = above ++ [name] := by
  unfold locate at h
  split at h
  · cases h
  · exact walk_eq_some h

/-- No file stands at the root. -/
theorem locate_ne_nil (h : t.locate path = some p) : p ≠ [] := by
  obtain ⟨-, name, above, -, -, -, -, rfl⟩ := locate_eq_some h
  simp

/-- The places of a file tree. -/
def view : View FileTree (List String) where
  node? := node?
  place? := locate
  name p := p.getLast?.getD ""

theorem ne_nil_of_isFolder (h : t.isFolder place = false) : place ≠ [] := by
  rintro rfl
  simp [isFolder, node?] at h

/-- A change at a place that neither was nor becomes a folder leads no path elsewhere. -/
theorem frame_of_node? (hc : t'.current = t.current)
    (hn : ∀ p, p ≠ place → t'.node? p = t.node? p) (h : t.isFolder place = false)
    (h' : t'.isFolder place = false) : view.Frame (· = place) t t' := by
  refine ⟨hn, locate_congr hc fun p => ?_⟩
  by_cases hp : p = place
  · rw [hp, h, h']
  · exact isFolder_of_node? (hn p hp)

/-- A file in the place of a file, or of nothing, changes that place only. -/
theorem frame_put (h : t.isFolder place = false) (content : ByteArray) :
    view.Frame (· = place) t (t.put place (.file content)) := by
  refine frame_of_node? rfl (fun p hp => node?_put_of_ne hp _) h ?_
  simp [isFolder, node?_put_self (ne_nil_of_isFolder h)]

/-- Clearing the place of a file changes that place only. -/
theorem frame_erase (h : t.isFolder place = false) : view.Frame (· = place) t (t.erase place) := by
  refine frame_of_node? rfl (fun p hp => node?_erase_of_ne hp) h ?_
  simp [isFolder, node?_erase_self (ne_nil_of_isFolder h)]

/-- **A write** fails and changes nothing, or puts the content at one place. -/
theorem write_cases {content : ByteArray} {done : Bool}
    (h : FileSystem.write t path content = (done, t')) :
    (done = false ∧ t' = t) ∨
      ∃ place, t.locate path = some place ∧ t.isFolder place = false ∧ done = true ∧
        t' = t.put place (.file content) := by
  simp only [FileSystem.write] at h
  split at h
  · cases h
    exact .inl ⟨rfl, rfl⟩
  · rename_i place hplace
    split at h
    · cases h
      exact .inl ⟨rfl, rfl⟩
    · rename_i hfolder
      cases h
      exact .inr ⟨place, hplace, by simpa using hfolder, rfl, rfl⟩

/-- **A rename** fails and changes nothing, or takes a file away from one place and puts it at
another. -/
theorem rename_cases {source target : String} {done : Bool}
    (h : FileSystem.rename t source target = (done, t')) :
    (done = false ∧ t' = t) ∨
      ∃ a b content, t.locate source = some a ∧ t.locate target = some b ∧
        t.content? a = some content ∧ t.isFolder b = false ∧ done = true ∧
        t' = (t.erase a).put b (.file content) := by
  simp only [FileSystem.rename] at h
  split at h
  · rename_i a b ha hb
    split at h
    · cases h
      exact .inl ⟨rfl, rfl⟩
    · rename_i content hcontent
      split at h
      · cases h
        exact .inl ⟨rfl, rfl⟩
      · rename_i hfolder
        cases h
        exact .inr ⟨a, b, content, ha, hb, hcontent, by simpa using hfolder, rfl, rfl⟩
  · cases h
    exact .inl ⟨rfl, rfl⟩

/-- **A removal** takes the file at a path away, if there is one. -/
theorem remove_cases (t : FileTree) (path : String) :
    (FileSystem.remove t path = t ∧ ∀ p, t.locate path = some p → t.content? p = none) ∨
      ∃ place content, t.locate path = some place ∧ t.content? place = some content ∧
        FileSystem.remove t path = t.erase place := by
  simp only [FileSystem.remove]
  cases hplace : t.locate path with
  | none => exact .inl ⟨rfl, fun p hp => by cases hp⟩
  | some place =>
    cases hcontent : t.content? place with
    | none =>
      refine .inl ⟨by simp [hcontent], fun p hp => ?_⟩
      cases hp
      exact hcontent
    | some content => exact .inr ⟨place, content, rfl, hcontent, by simp [hcontent]⟩

theorem isFolder_of_content? {content : ByteArray} (h : t.content? p = some content) :
    t.isFolder p = false := by
  simp [isFolder, node?_of_content? h]

/-- **File trees are lawful.** -/
theorem lawful : view.Lawful where
  name_of_place? := by
    intro t path p h
    obtain ⟨folders, name, above, hsegments, hempty, hdot, hdots, rfl⟩ := locate_eq_some h
    obtain ⟨parts, hparts, hname⟩ := Path.parts?_of_segments hsegments hempty hdot hdots
    exact ⟨parts, hparts, by simp [hname, view]⟩
  write_frame := by
    intro t t' path content done h
    rcases write_cases h with ⟨-, rfl⟩ | ⟨place, hplace, hfolder, -, rfl⟩
    · exact .refl t'
    · refine (frame_put hfolder content).mono fun p hp => ?_
      rw [hp]
      exact hplace
  write_done := by
    intro t t' path content h
    rcases write_cases h with ⟨hd, -⟩ | ⟨place, hplace, -, -, rfl⟩
    · cases hd
    · exact ⟨place, hplace, node?_put_self (locate_ne_nil hplace) _⟩
  write_failed := by
    intro t t' path content p h hp hnone
    rcases write_cases h with ⟨-, rfl⟩ | ⟨place, -, -, hd, -⟩
    · exact .inl hnone
    · cases hd
  rename_failed := by
    intro t t' source target h
    rcases rename_cases h with ⟨-, rfl⟩ | ⟨a, b, content, -, -, -, -, hd, -⟩
    · exact .refl t'
    · cases hd
  rename_done := by
    intro t t' source target a content h ha hnode
    rcases rename_cases h with ⟨hd, -⟩ | ⟨a', b, content', ha', hb, hcontent, hfolder, -, rfl⟩
    · cases hd
    · have haa : a = a' := Option.some.inj (ha.symm.trans ha')
      subst haa
      have hcc : content = content' := by
        have hfile := hnode.symm.trans (node?_of_content? hcontent)
        simpa using hfile
      subst hcc
      -- the file leaves its place first, which frees the target if the two are the same
      have herase := frame_erase (isFolder_of_content? hcontent)
      have hfree : (t.erase a).isFolder b = false := by
        by_cases hab : b = a
        · rw [hab]
          simp [isFolder, node?_erase_self (locate_ne_nil ha)]
        · rw [isFolder_of_node? (node?_erase_of_ne hab), hfolder]
      have hput := frame_put hfree content
      refine ⟨b, hb, (herase.mono fun p => .inl).trans (hput.mono fun p => .inr),
        node?_put_self (locate_ne_nil hb) _, fun hab => ?_⟩
      exact (node?_put_of_ne hab _).trans (node?_erase_self (locate_ne_nil ha))
  remove_frame := by
    intro t path
    rcases remove_cases t path with ⟨hr, -⟩ | ⟨place, content, hplace, hcontent, hr⟩
    · rw [hr]
      exact .refl t
    · rw [hr]
      refine (frame_erase (isFolder_of_content? hcontent)).mono fun p hp => ?_
      rw [hp]
      exact hplace
  remove_file := by
    intro t path p hp hnode
    rcases remove_cases t path with ⟨hr, hnone⟩ | ⟨place, content, hplace, hcontent, hr⟩
    · -- neither a file nor a folder is there
      rw [hr]
      have hcontent := hnone p hp
      change t.node? p = none
      change t.node? p ≠ some .folder at hnode
      unfold content? at hcontent
      split at hcontent
      · cases hcontent
      · rename_i hfile
        cases hn : t.node? p with
        | none => rfl
        | some n =>
          cases n with
          | file content => exact absurd hn (hfile content)
          | folder => exact absurd hn hnode
    · rw [hr]
      have hpp : p = place := Option.some.inj (hp.symm.trans hplace)
      rw [hpp]
      exact node?_erase_self (locate_ne_nil hplace)

end HttpSuite.FileTree
