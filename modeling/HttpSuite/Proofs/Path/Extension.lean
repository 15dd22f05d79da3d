import HttpSuite.Proofs.Path

/-!
# Paths with another extension

A path is its folders, its file name and what may follow a name without counting: slashes and single
dots. Giving it another extension keeps the folders and the name up to its last dot, also where the
old extension is cut off from the end of the path and not from that of the name. So the hidden file
beside the new path never has the old name, and the new path has it only if the extension stays.

* `Path.Leads`: a path with its folders and its name.
* `Path.splitExtension_cases`: how a name is divided at its last dot.
* `Path.withExtension_cases`: what the new path leads to.
* `Path.extension?_of_name_withExtension`: it has the name of the old path only if the extension is
  the same.
* `Path.name_temporary_withExtension_ne`: the hidden file beside it never has that name.
-/

namespace HttpSuite

namespace Text

/-- The parts between separators put together again. -/
theorem eq_of_splitOn {sep : Char} {cs part : List Char} (before : List (List Char))
    {after : List (List Char)} (h : splitOn sep cs = before ++ part :: after) :
    cs = before.flatMap (· ++ [sep]) ++ (part ++ after.flatMap (sep :: ·)) := by
  -- the cases are those of the cutting; in each the part is the first one, or a later one
  fun_induction splitOn sep cs generalizing before part after with
  | case1 =>
    cases before with
    | nil =>
      cases h
      rfl
    | cons a before => simp at h
  | case2 cs ih =>
    cases before with
    | nil =>
      cases h
      obtain ⟨q, qs, hq⟩ := List.exists_cons_of_ne_nil (splitOn_ne_nil sep cs)
      have hcs := ih [] hq
      rw [hq]
      simpa using hcs
    | cons a before =>
      obtain ⟨rfl, hrest⟩ := List.cons.inj h
      simpa using ih before hrest
  | case3 c cs _ q qs hq ih =>
    cases before with
    | nil =>
      cases h
      simpa using ih [] hq
    | cons a before =>
      obtain ⟨rfl, hrest⟩ := List.cons.inj h
      have hcs := ih (q :: before) (hq.trans (congrArg (q :: ·) hrest))
      simpa using hcs
  | case4 c cs _ hnil ih => exact absurd hnil (splitOn_ne_nil sep cs)

/-- A text is cut at each separator. -/
theorem splitOn_append_cons (sep : Char) (as bs : List Char) :
    splitOn sep (as ++ sep :: bs) = splitOn sep as ++ splitOn sep bs := by
  induction as with
  | nil => simp [splitOn]
  | cons c as ih =>
    rw [List.cons_append, splitOn, splitOn, ih]
    obtain ⟨q, qs, hq⟩ := List.exists_cons_of_ne_nil (splitOn_ne_nil sep as)
    by_cases hc : c = sep
    · rw [if_pos hc, if_pos hc, List.cons_append]
    · rw [if_neg hc, if_neg hc, hq]
      rfl

end Text

namespace Path

/-! ### Extensions of names -/

theorem bne_dot_of_not_mem {cs : List Char} (h : '.' ∉ cs) :
    ∀ c ∈ cs.reverse, (c != '.') = true := by
  intro c hc
  rw [bne_iff_ne]
  rintro rfl
  exact h (List.mem_reverse.1 hc)

/-- A name without a dot has no extension. -/
theorem splitExtension_of_not_mem {name : String} (h : '.' ∉ name.toList) :
    splitExtension name = (name, none) := by
  have htake : name.toList.reverse.takeWhile (· != '.') = name.toList.reverse := by
    rw [← List.append_nil name.toList.reverse,
      List.takeWhile_append_of_pos (bne_dot_of_not_mem h), List.takeWhile_nil]
  unfold splitExtension
  simp only [htake]
  simp

/-- A name with a dot, after which there is none. -/
theorem splitExtension_append (stem : String) {extension : String} (he : '.' ∉ extension.toList) :
    splitExtension (stem ++ "." ++ extension) =
      if stem = "" then ("." ++ extension, none) else (stem, some extension) := by
  have hname : (stem ++ "." ++ extension).toList =
      stem.toList ++ '.' :: extension.toList := by simp
  -- the extension is what follows the last dot, and the new extension has none
  have hafter : ((stem ++ "." ++ extension).toList.reverse.takeWhile (· != '.')).reverse =
      extension.toList := by
    rw [hname, List.reverse_append, List.reverse_cons, List.append_assoc,
      List.takeWhile_append_of_pos (bne_dot_of_not_mem he)]
    simp
  unfold splitExtension
  simp only [hafter]
  rw [hname]
  have hlength : (stem.toList ++ '.' :: extension.toList).length - extension.toList.length - 1 =
      stem.toList.length := by
    simp only [List.length_append, List.length_cons]
    omega
  rw [hlength, List.take_left]
  by_cases hs : stem = ""
  · subst hs
    simp
  · have hlong : ¬ extension.toList.length = stem.toList.length + (extension.toList.length + 1) := by
      omega
    simp [hs, hlong]

/-- **A name is divided** at its last dot, unless it has none or begins with it. -/
theorem splitExtension_cases (name : String) :
    splitExtension name = (name, none) ∨
      ∃ stem extension, stem ≠ "" ∧ '.' ∉ extension.toList ∧ name = stem ++ "." ++ extension ∧
        splitExtension name = (stem, some extension) := by
  by_cases hdot : '.' ∈ name.toList
  · -- the last dot is the first one from behind
    obtain ⟨as, bs, hsplit, has⟩ := List.eq_append_cons_of_mem (List.mem_reverse.2 hdot)
    have hname : name = String.ofList bs.reverse ++ "." ++ String.ofList as.reverse := by
      rw [← String.toList_inj]
      simpa using congrArg List.reverse hsplit
    have he : '.' ∉ (String.ofList as.reverse).toList := by simpa using has
    have hdivide := splitExtension_append (String.ofList bs.reverse) he
    rw [← hname] at hdivide
    by_cases hs : String.ofList bs.reverse = ""
    · rw [if_pos hs] at hdivide
      rw [hs, String.empty_append] at hname
      rw [← hname] at hdivide
      exact .inl hdivide
    · rw [if_neg hs] at hdivide
      exact .inr ⟨_, _, hs, he, hname, hdivide⟩
  · exact .inl (splitExtension_of_not_mem hdot)

theorem ne_of_length_lt {s t : String} (h : t.toList.length < s.toList.length) : s ≠ t := by
  rintro rfl
  omega

/-- A name with an extension is longer than its stem and its extension by the dot. -/
theorem length_dotted (stem extension : String) :
    (stem ++ "." ++ extension).toList.length =
      stem.toList.length + extension.toList.length + 1 := by
  have hdot : ".".toList.length = 1 := rfl
  rw [String.toList_append, String.toList_append, List.length_append, List.length_append, hdot]
  omega

theorem length_pos_of_ne {s : String} (h : s ≠ "") : 0 < s.toList.length :=
  List.length_pos_iff.2 fun hnil => h (String.toList_eq_nil_iff.1 hnil)

/-! ### What follows a name -/

/-- Text that may follow a name without counting: slashes, and single dots behind them. -/
inductive Trailing : List Char → Prop
  | nil : Trailing []
  | slash {cs : List Char} : Trailing cs → Trailing ('/' :: cs)
  | dot {cs : List Char} : Trailing cs → Trailing ('/' :: '.' :: cs)

/-- What ends a path still ends it if it is cut short. -/
theorem Trailing.take {cs : List Char} (h : Trailing cs) (n : Nat) : Trailing (cs.take n) := by
  induction h generalizing n with
  | nil => simpa using Trailing.nil
  | slash _ ih =>
    cases n with
    | zero => exact .nil
    | succ n => exact .slash (ih n)
  | dot _ ih =>
    match n with
    | 0 => exact .nil
    | 1 => exact .slash .nil
    | n + 2 => exact .dot (ih n)

/-- What follows a name adds only segments that do not count. -/
theorem Trailing.splitOn {cs : List Char} (h : Trailing cs) (part : List Char) (hp : '/' ∉ part) :
    ∃ blanks, Text.splitOn '/' (part ++ cs) = part :: blanks ∧
      ∀ b ∈ blanks, b = [] ∨ b = ['.'] := by
  induction h generalizing part with
  | nil => exact ⟨[], by rw [List.append_nil, Text.splitOn_of_not_mem hp], by simp⟩
  | slash _ ih =>
    obtain ⟨blanks, hblanks, hall⟩ := ih [] (by simp)
    refine ⟨[] :: blanks, ?_, by simpa using hall⟩
    rw [Text.splitOn_append hp, ← hblanks, List.nil_append]
  | dot _ ih =>
    obtain ⟨blanks, hblanks, hall⟩ := ih ['.'] (by decide)
    refine ⟨['.'] :: blanks, ?_, by simpa using hall⟩
    rw [Text.splitOn_append hp, ← hblanks, List.singleton_append]

/-- Slashes with nothing or a dot between them end a path. -/
theorem trailing_flatMap {blanks : List (List Char)} (h : ∀ b ∈ blanks, b = [] ∨ b = ['.']) :
    Trailing (blanks.flatMap ('/' :: ·)) := by
  induction blanks with
  | nil => exact .nil
  | cons b blanks ih =>
    have hrest := ih fun b hb => h b (by simp [hb])
    rcases h b (by simp) with rfl | rfl
    · exact .slash hrest
    · exact .dot hrest

/-- A path with its folders and its name, which something that does not count may follow. -/
structure Leads (path : String) (folders : List String) (name : String) : Prop where
  slash_not_mem_folder : ∀ f ∈ folders, '/' ∉ f.toList
  slash_not_mem_name : '/' ∉ name.toList
  ne_empty : name ≠ ""
  ne_dot : name ≠ "."
  eq_append : ∃ rest, Trailing rest ∧
    path = String.join (folders.map (· ++ "/")) ++ (name ++ String.ofList rest)

/-- The parts of a path are its folders and its name, unless that leads upwards. -/
theorem Leads.parts?_eq {path name : String} {folders : List String} (h : Leads path folders name) :
    parts? path = if name = ".." then none
      else some ⟨String.join (folders.map (· ++ "/")), name⟩ := by
  obtain ⟨rest, hrest, hpath⟩ := h.eq_append
  obtain ⟨blanks, hblanks, hall⟩ := hrest.splitOn _ h.slash_not_mem_name
  have hsegments : segments path = folders ++ name :: blanks.map String.ofList := by
    rw [hpath, segments_join_append h.slash_not_mem_folder, segments, String.toList_append,
      String.toList_ofList, hblanks, List.map_cons, String.ofList_toList]
  refine parts?_of_blank hsegments (fun b hb => ?_) h.ne_empty h.ne_dot
  obtain ⟨cs, hcs, rfl⟩ := List.mem_map.1 hb
  rcases hall cs hcs with rfl | rfl
  · exact .inl rfl
  · exact .inr rfl

/-- A path that has parts leads to its name. -/
theorem leads_of_parts? {path : String} {p : Parts} (h : parts? path = some p) :
    ∃ folders : List String, p.folder = String.join (folders.map (· ++ "/")) ∧
      Leads path folders p.name := by
  obtain ⟨folders, blanks, hfolder, hsegments, hblank, hempty, hdot, -⟩ := segments_of_parts? h
  have hplain : ∀ s ∈ folders ++ p.name :: blanks, '/' ∉ s.toList := by
    intro s hs
    exact slash_not_mem_of_mem_segments (hsegments ▸ hs)
  refine ⟨folders, hfolder, fun f hf => hplain f (by simp [hf]), hplain p.name (by simp), hempty,
    hdot, (blanks.map String.toList).flatMap ('/' :: ·), trailing_flatMap fun b hb => ?_, ?_⟩
  · obtain ⟨s, hs, rfl⟩ := List.mem_map.1 hb
    rcases hblank s hs with rfl | rfl
    · exact .inl rfl
    · exact .inr rfl
  · have hmap : Text.splitOn '/' path.toList = folders.map String.toList ++
        p.name.toList :: blanks.map String.toList := by
      have hlists := congrArg (List.map String.toList) hsegments
      simpa [segments, Function.comp_def] using hlists
    rw [← String.toList_inj, Text.eq_of_splitOn _ hmap]
    simp [String.toList_join, List.flatMap_map]

/-- A name behind folders. -/
theorem leads_append {folders : List String} (hf : ∀ f ∈ folders, '/' ∉ f.toList) (name : String)
    (hn : '/' ∉ name.toList) (hempty : name ≠ "") (hdot : name ≠ ".") :
    Leads (String.join (folders.map (· ++ "/")) ++ name) folders name :=
  ⟨hf, hn, hempty, hdot, [], .nil, by simp⟩

/-! ### Another extension -/

/-- **Without its extension** a path leads to a name that is the same up to the last dot. -/
theorem leads_dropExtension {path stem extension : String} {folders : List String}
    (h : Leads path folders (stem ++ "." ++ extension)) (hs : stem ≠ "")
    (he : '.' ∉ extension.toList) (hx : extension? path = some extension) :
    ∃ left : String, '.' ∉ left.toList ∧
      Leads (dropExtension path) folders (stem ++ "." ++ left) := by
  obtain ⟨rest, hrest, hpath⟩ := h.eq_append
  have hsplit : path.toList = (String.join (folders.map (· ++ "/")) ++ stem ++ ".").toList ++
      (extension.toList ++ rest) := by
    rw [hpath]
    simp
  have hlength : path.toList.length - extension.toList.length =
      (String.join (folders.map (· ++ "/")) ++ stem ++ ".").toList.length + rest.length := by
    rw [hsplit, List.length_append, List.length_append]
    omega
  -- what is behind the name is cut off first, and then the end of the extension
  have hcut : dropExtension path = String.join (folders.map (· ++ "/")) ++
      (stem ++ "." ++ String.ofList (extension.toList.take rest.length) ++
        String.ofList (rest.take (rest.length - extension.toList.length))) := by
    unfold dropExtension
    rw [hx]
    dsimp only
    rw [hlength, hsplit, List.take_length_add_append, List.take_append, ← String.toList_inj]
    simp
  refine ⟨String.ofList (extension.toList.take rest.length), ?_, h.slash_not_mem_folder, ?_, ?_, ?_,
    _, hrest.take _, hcut⟩
  · rw [String.toList_ofList]
    exact fun hm => he (List.mem_of_mem_take hm)
  · have hslash := h.slash_not_mem_name
    simp only [String.toList_append, List.mem_append, not_or, String.toList_ofList] at hslash ⊢
    exact ⟨hslash.1, fun hm => hslash.2 (List.mem_of_mem_take hm)⟩
  · exact ne_of_length_lt (by rw [length_dotted]; simp)
  · have hstem := length_pos_of_ne hs
    exact ne_of_length_lt (by rw [length_dotted]; simp; omega)

/-- A path without a name stays as it is. -/
theorem withExtension_of_none {path extension : String} (h : parts? (dropExtension path) = none) :
    withExtension path extension = dropExtension path := by
  simp only [withExtension, h]

/-- A name gets the extension in place of its own. -/
theorem withExtension_of_some {path extension : String} {p : Parts}
    (h : parts? (dropExtension path) = some p) :
    withExtension path extension = p.folder ++ (splitExtension p.name).1 ++ "." ++ extension := by
  simp only [withExtension, h]

/-- A stem with an extension is a name that counts. -/
theorem parts?_dotted {folders : List String} (hf : ∀ f ∈ folders, '/' ∉ f.toList)
    {stem extension : String} (hstem : '/' ∉ stem.toList) (hslash : '/' ∉ extension.toList)
    (hs : stem ≠ "") (he : extension ≠ "") :
    parts? (String.join (folders.map (· ++ "/")) ++ stem ++ "." ++ extension) =
      some ⟨String.join (folders.map (· ++ "/")), stem ++ "." ++ extension⟩ := by
  have hlong : 2 < (stem ++ "." ++ extension).toList.length := by
    have := length_pos_of_ne hs
    have := length_pos_of_ne he
    rw [length_dotted]
    omega
  have hdots : stem ++ "." ++ extension ≠ ".." := ne_of_length_lt hlong
  have hleads := leads_append hf (stem ++ "." ++ extension) (by simp [hstem, hslash])
    (ne_of_length_lt (Nat.zero_lt_of_lt hlong)) (ne_of_length_lt (Nat.lt_of_succ_lt hlong))
  have hparts := hleads.parts?_eq
  rw [if_neg hdots] at hparts
  simpa only [String.append_assoc] using hparts

/-- **What a path with another extension leads to:** the same name up to its last dot and then the
extension. Where there are two dots before the old extension and nothing else, these alone may be
left, and then the path leads to no file. -/
theorem withExtension_cases {path extension : String} {p : Parts} (h : parts? path = some p)
    (hslash : '/' ∉ extension.toList) (hempty : extension ≠ "") :
    (parts? (withExtension path extension) = none ∧ ∃ old, p.name = "." ++ "." ++ old) ∨
      ∃ q, parts? (withExtension path extension) = some q ∧
        q.name = (splitExtension p.name).1 ++ "." ++ extension := by
  obtain ⟨folders, hfolder, hleads⟩ := leads_of_parts? h
  have hx : extension? path = (splitExtension p.name).2 := by rw [extension?, h, Option.bind_some]
  rcases splitExtension_cases p.name with hnone | ⟨stem, old, hs, ho, hname, hsome⟩
  -- a name without an extension: the new one is put behind the path as it stands
  · have hshort : dropExtension path = path := by rw [dropExtension, hx, hnone]
    have hpath : withExtension path extension = p.folder ++ p.name ++ "." ++ extension := by
      rw [withExtension_of_some (hshort.symm ▸ h), hnone]
    rw [hpath, hnone, hfolder]
    exact .inr ⟨_, parts?_dotted hleads.slash_not_mem_folder hleads.slash_not_mem_name hslash
      hleads.ne_empty hempty, rfl⟩
  -- a name with an extension: what is left of the path ends with the stem, its dot, and as much of
  -- the extension as the end of the path made up for
  · rw [hsome] at hx
    rw [hname] at hleads
    obtain ⟨left, hleft, hshort⟩ := leads_dropExtension hleads hs ho hx
    have hstem : '/' ∉ stem.toList := by
      have hplain := hleads.slash_not_mem_name
      simp only [String.toList_append, List.mem_append, not_or] at hplain
      exact hplain.1.1
    have hparts := hshort.parts?_eq
    by_cases hdots : stem ++ "." ++ left = ".."
    · rw [if_pos hdots] at hparts
      -- only the stem `.` can be left as two dots
      have hdot : stem = "." := by
        have hsplit := splitExtension_append stem hleft
        rw [hdots, if_neg hs] at hsplit
        exact (congrArg Prod.fst hsplit).symm.trans (by decide)
      rw [withExtension_of_none hparts, hname, hdot]
      exact .inl ⟨hparts, old, rfl⟩
    · rw [if_neg hdots] at hparts
      have hpath : withExtension path extension =
          String.join (folders.map (· ++ "/")) ++ stem ++ "." ++ extension := by
        simp only [withExtension_of_some hparts, splitExtension_append stem hleft, if_neg hs]
      rw [hpath, hsome]
      exact .inr ⟨_, parts?_dotted hleads.slash_not_mem_folder hstem hslash hs hempty, rfl⟩

/-- **A new path that leads to the same name:** the extension was the new one before. -/
theorem extension?_of_name_withExtension {path extension : String} {p q : Parts}
    (h : parts? path = some p) (hslash : '/' ∉ extension.toList) (hdot : '.' ∉ extension.toList)
    (hempty : extension ≠ "") (hq : parts? (withExtension path extension) = some q)
    (hname : q.name = p.name) : extension? path = some extension := by
  rcases withExtension_cases h hslash hempty with ⟨hnone, -⟩ | ⟨q', hq', hname'⟩
  · rw [hq] at hnone
    cases hnone
  · rw [hq] at hq'
    cases hq'
    have hstem : (splitExtension p.name).1 ≠ "" := by
      obtain ⟨-, -, -, -, -, hcounts, -, -⟩ := segments_of_parts? h
      rcases splitExtension_cases p.name with hnone | ⟨stem, old, hs, -, -, hsome⟩
      · rw [hnone]
        exact hcounts
      · rw [hsome]
        exact hs
    have hsplit := splitExtension_append (splitExtension p.name).1 hdot
    rw [← hname', hname, if_neg hstem] at hsplit
    rw [extension?, h, Option.bind_some, hsplit]

/-- A name behind a slash is one more segment. -/
theorem segments_append_slash (path : String) {name : String} (hn : '/' ∉ name.toList) :
    segments (path ++ "/" ++ name) = segments path ++ [name] := by
  have htext : (path ++ "/" ++ name).toList = path.toList ++ '/' :: name.toList := by simp
  rw [segments, htext, Text.splitOn_append_cons, List.map_append, ← segments, ← segments,
    segments_of_not_mem hn]

/-- The hidden file beside a path that leads to no file. -/
theorem name_temporary_of_none {path : String} (h : parts? path = none) :
    ∃ q, parts? (temporary path) = some q ∧ q.name = ".generated.tmp" := by
  have hplain : '/' ∉ ".generated.tmp".toList := by decide
  have hsegments : ∃ folders, segments (temporary path) = folders ++ [".generated.tmp"] := by
    unfold temporary
    rw [h]
    dsimp only
    split
    · rename_i hfolder
      rcases hfolder with rfl | hlast
      · exact ⟨[], by rw [String.empty_append, segments_of_not_mem hplain, List.nil_append]⟩
      · obtain ⟨cs, hcs⟩ := List.getLast?_eq_some_iff.1 hlast
        have hpath : path = String.ofList cs ++ "/" := by
          rw [← String.toList_inj, hcs]
          simp
        rw [hpath]
        exact ⟨_, segments_append_slash _ hplain⟩
    · exact ⟨_, segments_append_slash path hplain⟩
  obtain ⟨folders, hfolders⟩ := hsegments
  exact parts?_of_segments hfolders (by decide) (by decide) (by decide)

/-- **The hidden file beside the new path** has another name than the old path. -/
theorem name_temporary_withExtension_ne {path extension : String} {p q : Parts}
    (h : parts? path = some p) (hslash : '/' ∉ extension.toList) (hempty : extension ≠ "")
    (hq : parts? (temporary (withExtension path extension)) = some q) : q.name ≠ p.name := by
  rcases withExtension_cases h hslash hempty with ⟨hnone, old, hold⟩ | ⟨d, hd, hname⟩
  · obtain ⟨q', hq', hname⟩ := name_temporary_of_none hnone
    rw [hq] at hq'
    cases hq'
    rw [hname, hold]
    intro heq
    have hsecond := congrArg (fun s : String => s.toList[1]?) heq
    simp at hsecond
  · obtain ⟨q', hq', hhidden⟩ := name_temporary hd
    rw [hq] at hq'
    cases hq'
    intro heq
    -- otherwise the old name would be divided before its ending, and the stem longer than it is
    have hplain : '.' ∉ "tmp".toList := by decide
    have hsplit := splitExtension_append ("." ++ d.name) hplain
    have hdivided : "." ++ d.name ++ "." ++ "tmp" = p.name := by
      rw [← heq, hhidden, String.append_assoc]
      rfl
    rw [hdivided, if_neg (by simp [← String.toList_inj])] at hsplit
    rw [hsplit] at hname
    have hlength := congrArg (fun s : String => s.toList.length) hname
    simp at hlength
    omega

end Path

end HttpSuite
