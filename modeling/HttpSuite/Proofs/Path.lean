import HttpSuite.Path

/-!
# The name of a temporary file

A path is put together from its segments, and the hidden file beside a path has a name of its own.

* `Path.segments_join`: the segments of a folder and a name put together.
* `Path.name_temporary`: the name of the hidden file beside a path.
-/

namespace HttpSuite

namespace Text

theorem not_mem_of_mem_splitOn {sep : Char} {cs part : List Char} (h : part ∈ splitOn sep cs) :
    sep ∉ part := by
  fun_induction splitOn sep cs generalizing part with
  | case1 => simp_all
  | case2 cs ih =>
    rcases List.mem_cons.1 h with rfl | h
    · simp
    · exact ih h
  | case3 c cs hc p ps hp ih =>
    rw [hp] at ih
    rcases List.mem_cons.1 h with rfl | h
    · intro hm
      rcases List.mem_cons.1 hm with rfl | hm
      · exact hc rfl
      · exact ih (by simp) hm
    · exact ih (by simp [h])
  | case4 c cs hc hnil ih => exact absurd hnil (splitOn_ne_nil sep cs)

theorem splitOn_of_not_mem {sep : Char} {cs : List Char} (h : sep ∉ cs) :
    splitOn sep cs = [cs] := by
  induction cs with
  | nil => rfl
  | cons c cs ih =>
    have hc : c ≠ sep := fun he => h (by simp [he])
    rw [splitOn, if_neg hc, ih fun hm => h (by simp [hm])]

theorem splitOn_append {sep : Char} {part : List Char} (h : sep ∉ part) (cs : List Char) :
    splitOn sep (part ++ sep :: cs) = part :: splitOn sep cs := by
  induction part with
  | nil => simp [splitOn]
  | cons c part ih =>
    have hc : c ≠ sep := fun he => h (by simp [he])
    rw [List.cons_append, splitOn, if_neg hc, ih fun hm => h (by simp [hm])]

end Text

namespace Path

theorem slash_not_mem_of_mem_segments {path segment : String} (h : segment ∈ segments path) :
    '/' ∉ segment.toList := by
  obtain ⟨cs, hcs, rfl⟩ := List.mem_map.1 h
  rw [String.toList_ofList]
  exact Text.not_mem_of_mem_splitOn hcs

theorem segments_of_not_mem {name : String} (h : '/' ∉ name.toList) : segments name = [name] := by
  rw [segments, Text.splitOn_of_not_mem h, List.map_singleton, String.ofList_toList]

/-- Folders that are put before a path with slashes are segments of what results. -/
theorem segments_join_append {folders : List String} (hf : ∀ f ∈ folders, '/' ∉ f.toList)
    (path : String) :
    segments (String.join (folders.map (· ++ "/")) ++ path) = folders ++ segments path := by
  induction folders with
  | nil => simp
  | cons f folders ih =>
    have hhead : (String.join ((f :: folders).map (· ++ "/")) ++ path).toList =
        f.toList ++ '/' :: (String.join (folders.map (· ++ "/")) ++ path).toList := by
      simp [String.toList_join]
    rw [segments, hhead, Text.splitOn_append (hf f (by simp)), List.map_cons, ← segments,
      ih fun g hg => hf g (by simp [hg]), String.ofList_toList, List.cons_append]

/-- Segments that are put together with slashes are the segments of what results. -/
theorem segments_join {folders : List String} (hf : ∀ f ∈ folders, '/' ∉ f.toList) {name : String}
    (hn : '/' ∉ name.toList) :
    segments (String.join (folders.map (· ++ "/")) ++ name) = folders ++ [name] := by
  rw [segments_join_append hf, segments_of_not_mem hn]

/-- The name of a path is its last segment that counts. -/
theorem segments_of_parts? {path : String} {p : Parts} (h : parts? path = some p) :
    ∃ folders blanks : List String, p.folder = String.join (folders.map (· ++ "/")) ∧
      segments path = folders ++ p.name :: blanks ∧ (∀ b ∈ blanks, b = "" ∨ b = ".") ∧
      p.name ≠ "" ∧ p.name ≠ "." ∧ p.name ≠ ".." := by
  have hsplit := List.takeWhile_append_dropWhile (p := fun s => decide (s = "" ∨ s = "."))
    (l := (segments path).reverse)
  have hblank : ∀ b ∈ (segments path).reverse.takeWhile (fun s => decide (s = "" ∨ s = ".")),
      b = "" ∨ b = "." := by
    intro b hb
    simpa using List.all_eq_true.1 List.all_takeWhile b hb
  -- the first segment from the end that is neither empty nor a dot is the name
  have hcounts := List.head?_dropWhile_not (fun s => decide (s = "" ∨ s = "."))
    (segments path).reverse
  unfold parts? at h
  split at h
  · cases h
  · rename_i name before hd
    rw [hd] at hsplit hcounts
    have hname : name ≠ "" ∧ name ≠ "." := by simpa using hcounts
    split at h
    · cases h
    · rename_i hdots
      cases h
      refine ⟨before.reverse, _, rfl, ?_, fun b hb => hblank b (List.mem_reverse.1 hb), hname.1,
        hname.2, hdots⟩
      have hpath := congrArg List.reverse hsplit
      simp only [List.reverse_append, List.reverse_cons, List.append_assoc, List.reverse_reverse,
        List.singleton_append] at hpath
      exact hpath.symm

/-- What the parts of a path are put together from. -/
theorem exists_of_parts? {path : String} {p : Parts} (h : parts? path = some p) :
    ∃ folders : List String, p.folder = String.join (folders.map (· ++ "/")) ∧
      p.name ∈ segments path ∧ ∀ f ∈ folders, f ∈ segments path := by
  obtain ⟨folders, blanks, hfolder, hsegments, -, -, -, -⟩ := segments_of_parts? h
  rw [hsegments]
  exact ⟨folders, hfolder, by simp, fun f hf => by simp [hf]⟩

/-- Segments that do not count may follow the name. -/
theorem parts?_of_blank {path name : String} {folders blanks : List String}
    (h : segments path = folders ++ name :: blanks) (hblank : ∀ b ∈ blanks, b = "" ∨ b = ".")
    (hempty : name ≠ "") (hdot : name ≠ ".") :
    parts? path = if name = ".." then none
      else some ⟨String.join (folders.map (· ++ "/")), name⟩ := by
  have hlast : (segments path).reverse.dropWhile (fun s => s = "" ∨ s = ".") =
      name :: folders.reverse := by
    rw [h, List.reverse_append, List.reverse_cons, List.append_assoc,
      List.dropWhile_append_of_pos fun b hb => by simpa using hblank b (List.mem_reverse.1 hb),
      List.singleton_append, List.dropWhile_cons_of_neg (by simp [hempty, hdot])]
  unfold parts?
  rw [hlast]
  simp only [List.reverse_reverse]

theorem parts?_of_segments {path name : String} {folders : List String}
    (h : segments path = folders ++ [name]) (hempty : name ≠ "") (hdot : name ≠ ".")
    (hdots : name ≠ "..") : ∃ p, parts? path = some p ∧ p.name = name := by
  rw [parts?_of_blank h (by simp) hempty hdot, if_neg hdots]
  exact ⟨_, rfl, rfl⟩

/-- **The hidden file beside a path** is named after the file. -/
theorem name_temporary {path : String} {p : Parts} (h : parts? path = some p) :
    ∃ q, parts? (temporary path) = some q ∧ q.name = "." ++ p.name ++ ".tmp" := by
  obtain ⟨folders, hfolder, hname, hmem⟩ := exists_of_parts? h
  have hslash : '/' ∉ ("." ++ p.name ++ ".tmp").toList := by
    have := slash_not_mem_of_mem_segments hname
    simp [this]
  have hpath : temporary path =
      String.join (folders.map (· ++ "/")) ++ ("." ++ p.name ++ ".tmp") := by
    unfold temporary
    rw [h]
    simp only [hfolder, String.append_assoc]
  -- it is longer than the names with which a path leads to no file
  have hlong : ∀ short : String, short.toList.length < 5 → "." ++ p.name ++ ".tmp" ≠ short := by
    intro short hs he
    rw [← he] at hs
    simp at hs
    omega
  have hsegments := segments_join (fun f hf => slash_not_mem_of_mem_segments (hmem f hf)) hslash
  rw [← hpath] at hsegments
  exact parts?_of_segments hsegments (hlong _ (by decide)) (hlong _ (by decide))
    (hlong _ (by decide))

/-- It is another name. -/
theorem temporary_name_ne (name : String) : "." ++ name ++ ".tmp" ≠ name := by
  intro h
  have hlength := congrArg (fun s : String => s.toList.length) h
  simp at hlength
  omega

end Path

end HttpSuite
