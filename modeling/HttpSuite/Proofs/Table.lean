import Mathlib.Data.List.Nodup
import HttpSuite.Proofs.Grammar

/-!
# Tables that are written entry by entry

A table has one entry for each key. A key that is new goes to the end, so writing entries whose keys
all differ gives back the list of them.

* `Table.keys_put`: the keys after an entry is written.
* `Table.nodup_putAll`: no key comes twice.
* `Table.putAll_of_nodup`: entries with different keys are kept as they are.
* `Table.find?_putAll`: the last entry that was written for a key is found by it.
-/

namespace HttpSuite

namespace Table

variable {α κ : Type} [DecidableEq κ] {key : α → κ} {a b : α} {entries as : List α}

/-- Writes entries one after another. -/
def putAll (key : α → κ) (as entries : List α) : List α :=
  as.foldl (fun t a => put key a t) entries

/-- An entry is the one that was written or was there before. -/
theorem mem_of_mem_put (h : b ∈ put key a entries) : b = a ∨ b ∈ entries := by
  induction entries with
  | nil => simpa [put] using h
  | cons c entries ih =>
    unfold put at h
    split at h
    · rcases List.mem_cons.1 h with rfl | h
      · exact .inl rfl
      · exact .inr (List.mem_cons_of_mem c h)
    · rcases List.mem_cons.1 h with rfl | h
      · exact .inr List.mem_cons_self
      · rcases ih h with rfl | h
        · exact .inl rfl
        · exact .inr (List.mem_cons_of_mem c h)

/-- A new key comes last. -/
theorem put_of_not_mem (h : key a ∉ entries.map key) : put key a entries = entries ++ [a] := by
  induction entries with
  | nil => rfl
  | cons c entries ih =>
    rw [List.map_cons, List.mem_cons, not_or] at h
    unfold put
    rw [if_neg (Ne.symm h.1), ih h.2, List.cons_append]

/-- An entry whose key is there takes the place of the entry with that key. -/
theorem keys_put_of_mem (h : key a ∈ entries.map key) :
    (put key a entries).map key = entries.map key := by
  induction entries with
  | nil => simp at h
  | cons c entries ih =>
    unfold put
    split
    · rename_i hc
      rw [List.map_cons, List.map_cons, hc]
    · rename_i hc
      rw [List.map_cons, List.mem_cons] at h
      rw [List.map_cons, List.map_cons, ih (h.resolve_left (Ne.symm hc))]

/-- Writing adds a key at the end, or no key. -/
theorem keys_put : (put key a entries).map key =
    if key a ∈ entries.map key then entries.map key else entries.map key ++ [key a] := by
  split
  · rename_i h
    exact keys_put_of_mem h
  · rename_i h
    rw [put_of_not_mem h, List.map_append]
    rfl

/-- Keys stay distinct. -/
theorem nodup_put (h : (entries.map key).Nodup) : ((put key a entries).map key).Nodup := by
  rw [keys_put]
  split
  · exact h
  · rename_i ha
    refine List.nodup_append.2 ⟨h, by simp, ?_⟩
    rintro k hk k' hk' rfl
    rw [List.mem_singleton.1 hk'] at hk
    exact ha hk

/-- **No key comes twice.** -/
theorem nodup_putAll (h : (entries.map key).Nodup) : ((putAll key as entries).map key).Nodup := by
  induction as generalizing entries with
  | nil => exact h
  | cons a as ih => exact ih (nodup_put h)

/-- An entry is one of those that were written or was there before. -/
theorem mem_of_mem_putAll (h : b ∈ putAll key as entries) : b ∈ as ∨ b ∈ entries := by
  induction as generalizing entries with
  | nil => exact .inr h
  | cons a as ih =>
    rcases ih h with h | h
    · exact .inl (List.mem_cons_of_mem a h)
    · rcases mem_of_mem_put h with rfl | h
      · exact .inl List.mem_cons_self
      · exact .inr h

/-- **Entries with different keys are kept as they are.** -/
theorem putAll_of_nodup (h : ((entries ++ as).map key).Nodup) :
    putAll key as entries = entries ++ as := by
  induction as generalizing entries with
  | nil => simp [putAll]
  | cons a as ih =>
    have ha : key a ∉ entries.map key := by
      rw [List.map_append, List.nodup_append] at h
      exact fun hm => h.2.2 _ hm _ (by simp) rfl
    have hrest : ((entries ++ [a] ++ as).map key).Nodup := by simpa using h
    have hput : putAll key (a :: as) entries = putAll key as (entries ++ [a]) := by
      unfold putAll
      rw [List.foldl_cons, put_of_not_mem ha]
    rw [hput, ih hrest, List.append_assoc, List.singleton_append]

/-- **The last entry that was written for a key** is found by it. -/
theorem find?_putAll (key : α → κ) (k : κ) (as entries : List α) :
    find? key k (putAll key as entries) =
      (as.filter fun a => key a = k).getLast?.or (find? key k entries) := by
  induction as generalizing entries with
  | nil => rfl
  | cons a as ih =>
    have hput : putAll key (a :: as) entries = putAll key as (put key a entries) := rfl
    rw [hput, ih, List.filter_cons]
    by_cases h : key a = k
    · subst h
      rw [find?_put_self, if_pos (by simp), List.getLast?_cons]
      cases (as.filter fun b => key b = key a).getLast? <;> rfl
    · rw [find?_put_of_ne key (Ne.symm h), if_neg (by simpa using h)]

/-- Where no key comes twice, an entry is found by its key. -/
theorem find?_eq_some_iff (h : (entries.map key).Nodup) {k : κ} :
    find? key k entries = some a ↔ a ∈ entries ∧ key a = k := by
  unfold find?
  constructor
  · intro hfound
    exact ⟨List.mem_of_find?_eq_some hfound, by simpa using List.find?_some hfound⟩
  · rintro ⟨ha, rfl⟩
    cases hfound : entries.find? fun b => key b = key a with
    | none =>
      have hne := List.find?_eq_none.1 hfound a ha
      simp at hne
    | some b =>
      have hb := List.mem_of_find?_eq_some hfound
      have hkey : key b = key a := by simpa using List.find?_some hfound
      rw [List.inj_on_of_nodup_map h hb ha hkey]

/-- The order of the entries does not matter. -/
theorem find?_of_perm {es : List α} {k : κ} (h : (entries.map key).Nodup)
    (hp : entries.Perm es) : find? key k entries = find? key k es := by
  have hes : (es.map key).Nodup := (hp.map key).nodup_iff.1 h
  ext a
  rw [find?_eq_some_iff h, find?_eq_some_iff hes, hp.mem_iff]

/-- A change of the entries that keeps their keys. -/
theorem map_put {g : α → α} (hg : ∀ a, key (g a) = key a) :
    (put key a entries).map g = put key (g a) (entries.map g) := by
  induction entries with
  | nil => rfl
  | cons b entries ih =>
    rw [List.map_cons]
    unfold put
    rw [hg, hg]
    split
    · rw [List.map_cons]
    · rw [List.map_cons, ih]

end Table

/-- Inserting headers writes them under their names in lower case. -/
theorem Headers.entries_foldl_insert (hs : List Header) (t : Headers) :
    (hs.foldl Headers.insert t).entries = Table.putAll Header.key hs t.entries := by
  induction hs generalizing t with
  | nil => rfl
  | cons h hs ih => exact ih (t.insert h)

theorem Headers.entries_ofList (hs : List Header) :
    (Headers.ofList hs).entries = Table.putAll Header.key hs [] :=
  Headers.entries_foldl_insert hs {}

/-- Declaring variables writes them under their names. -/
theorem Variables.entries_foldl_insert (vs : List Variable) (t : Variables) :
    (vs.foldl (fun t v => t.insert v.name v.value) t).entries =
      Table.putAll Variable.name vs t.entries := by
  induction vs generalizing t with
  | nil => rfl
  | cons v vs ih => exact ih (t.insert v.name v.value)

theorem Variables.entries_ofList (vs : List Variable) :
    (Variables.ofList vs).entries = Table.putAll Variable.name vs [] :=
  Variables.entries_foldl_insert vs {}

/-- The last value that was declared for a name. -/
theorem Variables.get?_ofList (vs : List Variable) (name : String) :
    (Variables.ofList vs).get? name =
      ((vs.filter fun v => v.name = name).getLast?).map Variable.value := by
  rw [get?, Variables.entries_ofList, Table.find?_putAll]
  simp [Table.find?]

/-- A header of a table is one of those that were declared. -/
theorem Headers.mem_of_mem_ofList {hs : List Header} {h : Header}
    (hm : h ∈ (Headers.ofList hs).entries) : h ∈ hs := by
  rw [Headers.entries_ofList] at hm
  simpa using Table.mem_of_mem_putAll hm

theorem Variables.mem_of_mem_ofList {vs : List Variable} {v : Variable}
    (hm : v ∈ (Variables.ofList vs).entries) : v ∈ vs := by
  rw [Variables.entries_ofList] at hm
  simpa using Table.mem_of_mem_putAll hm

end HttpSuite
