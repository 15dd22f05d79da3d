import Mathlib.Data.Finset.Card
import HttpSuite.Proofs.Table

/-!
# The last write, at the first place

What a table holds after any number of writes, said without the table: an entry for each class of
keys, where the first of the class was written, and that entry is the last one written for the class.

* `Table.keys_putAll`: the keys, in the order in which they first came.
* `Table.map_some_putAll`: the entries.
* `Header.key_eq_iff`: two headers have one key when their names differ in the case of ASCII letters
  only.
* `tables_hold_last_writes`: header tables and variable tables.
-/

namespace HttpSuite

namespace Table

variable {α κ : Type} [DecidableEq κ] {key : α → κ} {entries as : List α}

/-- **The keys come in the order in which they were first written.** -/
theorem keys_putAll (key : α → κ) (as : List α) :
    (putAll key as []).map key = (as.map key).eraseDups := by
  induction as using List.reverseRecOn with
  | nil => rfl
  | append_singleton as a ih =>
    have hput : putAll key (as ++ [a]) [] = put key a (putAll key as []) :=
      List.foldl_concat _ _ _ _
    have hmem : key a ∈ (as.map key).eraseDups ↔ key a ∈ as.map key := List.mem_eraseDups
    rw [hput, keys_put, ih, List.map_append, List.eraseDups_append]
    by_cases h : key a ∈ as.map key
    · have hold : [key a].removeAll (as.map key) = [] := by
        rw [List.cons_removeAll, if_neg (by simpa using h), List.nil_removeAll]
      rw [if_pos (hmem.2 h), List.map_singleton, hold, List.eraseDups_nil, List.append_nil]
    · have hnew : [key a].removeAll (as.map key) = [key a] := by
        rw [List.cons_removeAll, if_pos (by simpa using h), List.nil_removeAll]
      rw [if_neg (mt hmem.1 h), List.map_singleton, hnew]
      rfl

/-- Where no key comes twice, the entries are what is found by their keys. -/
theorem map_some_of_nodup (h : (entries.map key).Nodup) :
    entries.map some = (entries.map key).map fun k => find? key k entries := by
  rw [List.map_map]
  refine List.map_congr_left fun a ha => ?_
  exact ((find?_eq_some_iff h).2 ⟨ha, rfl⟩).symm

/-- The first entry of each class, by a comparison that agrees with the keys. -/
theorem map_eraseDupsBy {same : α → α → Bool} (hsame : ∀ a b, same a b ↔ key a = key b) :
    (as.eraseDupsBy same).map key = (as.map key).eraseDups := by
  induction hn : as.length using Nat.strong_induction_on generalizing as with
  | _ n ih =>
    cases as with
    | nil => rfl
    | cons a as =>
      have hlen : (as.filter fun b => same b a = false).length < n := by
        have hle := List.length_filter_le (fun b => decide (same b a = false)) as
        rw [List.length_cons] at hn
        omega
      have hfilter : (as.filter fun b => same b a = false).map key =
          (as.map key).filter fun k => !k == key a := by
        rw [List.filter_map]
        refine congrArg (List.map key) (List.filter_congr fun b _ => ?_)
        have hb := hsame b a
        by_cases hk : key b = key a
        · simp [hb.2 hk, hk]
        · simp [Bool.eq_false_iff.2 (mt hb.1 hk), hk]
      rw [List.eraseDupsBy_cons, List.map_cons, List.map_cons, List.eraseDups_cons,
        ih _ hlen rfl, hfilter]

/-- **One entry for each key**, the last one that was written for it. -/
theorem map_some_putAll (key : α → κ) (as : List α) :
    (putAll key as []).map some =
      (as.map key).eraseDups.map fun k => (as.filter fun a => key a = k).getLast? := by
  have hnodup : ((putAll key as []).map key).Nodup := nodup_putAll List.nodup_nil
  rw [map_some_of_nodup hnodup, keys_putAll]
  refine List.map_congr_left fun k _ => ?_
  simpa [find?] using find?_putAll key k as []

/-- The same by a comparison that agrees with the keys. -/
theorem map_some_putAll_by {same : α → α → Bool} (hsame : ∀ a b, same a b ↔ key a = key b) :
    (putAll key as []).map some =
      (as.eraseDupsBy same).map fun a => (as.filter (same a)).getLast? := by
  rw [map_some_putAll, ← map_eraseDupsBy hsame, List.map_map]
  refine List.map_congr_left fun a _ => congrArg List.getLast? (List.filter_congr fun b _ => ?_)
  rw [Bool.eq_iff_iff, hsame, decide_eq_true_eq, eq_comm]

/-- The number of entries is the number of keys. -/
theorem length_putAll (key : α → κ) (as : List α) :
    (putAll key as []).length = (as.map key).toFinset.card := by
  have hnodup : ((putAll key as []).map key).Nodup := nodup_putAll List.nodup_nil
  have hkeys : ((putAll key as []).map key).toFinset = (as.map key).toFinset := by
    ext k
    rw [keys_putAll, List.mem_toFinset, List.mem_toFinset, List.mem_eraseDups]
  rw [← hkeys, List.toFinset_card_of_nodup hnodup, List.length_map]

end Table

/-- Characters that are equal or the two cases of one ASCII letter. -/
def SameLetter (c d : Char) : Prop :=
  c = d ∨ (c.isUpper ∧ d.toNat = c.toNat + 32) ∨ (d.isUpper ∧ c.toNat = d.toNat + 32)

instance : DecidableRel SameLetter := fun c d =>
  inferInstanceAs (Decidable (c = d ∨ (c.isUpper ∧ d.toNat = c.toNat + 32) ∨
    (d.isUpper ∧ c.toNat = d.toNat + 32)))

/-- Headers whose names are equal, the case of ASCII letters apart. -/
def Header.SameName (h h' : Header) : Prop :=
  List.Forall₂ SameLetter h.name.toList h'.name.toList

instance : DecidableRel Header.SameName := fun h h' =>
  inferInstanceAs (Decidable (List.Forall₂ SameLetter h.name.toList h'.name.toList))

theorem isUpper_iff (c : Char) : c.isUpper ↔ 65 ≤ c.toNat ∧ c.toNat ≤ 90 := by
  delta Char.isUpper
  simp [UInt32.le_iff_toNat_le]

theorem toNat_toLower (c : Char) :
    c.toLower.toNat = if c.isUpper then c.toNat + 32 else c.toNat := by
  have hc := isUpper_iff c
  unfold Char.toLower
  by_cases h : c.isUpper
  · rw [dif_pos (by delta Char.isUpper at h; simpa using h), if_pos h]
    show (c.val + 32).toNat = c.val.toNat + 32
    rw [UInt32.toNat_add]
    have hle : c.val.toNat ≤ 90 := (hc.1 h).2
    show (c.val.toNat + 32) % 4294967296 = c.val.toNat + 32
    omega
  · rw [dif_neg (by delta Char.isUpper at h; simpa using h), if_neg h]

theorem toLower_eq_iff (c d : Char) : c.toLower = d.toLower ↔ SameLetter c d := by
  have hc := isUpper_iff c
  have hd := isUpper_iff d
  rw [← Char.toNat_inj, toNat_toLower, toNat_toLower, SameLetter, ← Char.toNat_inj]
  split <;> split <;> simp_all <;> omega

theorem Header.key_eq_iff (h h' : Header) : h.key = h'.key ↔ h.SameName h' := by
  have hmap : ∀ cs ds : List Char, cs.map Char.toLower = ds.map Char.toLower ↔
      List.Forall₂ SameLetter cs ds := by
    intro cs ds
    rw [← List.forall₂_eq_eq_eq, List.forall₂_map_left_iff, List.forall₂_map_right_iff]
    simp only [toLower_eq_iff]
  change h.name.map Char.toLower = h'.name.map Char.toLower ↔ _
  rw [← String.toList_inj, String.toList_map, String.toList_map]
  exact hmap _ _

/-- **Tables hold the last writes, at the places of the first ones.** A header table has one entry
for each class of names that are equal but for the case of ASCII letters, in the order in which the
classes came, and the entry is the last header of its class, as it was written. A variable table has
one entry for each name in the same way; its size is the number of names, and what is found by a name
is the last value that was written for it. -/
theorem tables_hold_last_writes (hs : List Header) (vs : List Variable) :
    (hs.foldl Headers.insert {}).entries.Pairwise (¬ ·.SameName ·) ∧
    ((hs.foldl Headers.insert {}).entries.map some =
      (hs.eraseDupsBy (·.SameName ·)).map fun h => (hs.filter (h.SameName ·)).getLast?) ∧
    let t := vs.foldl (fun t v => t.insert v.name v.value) ({} : Variables)
    (t.entries.map some =
      (vs.map Variable.name).eraseDups.map fun n => (vs.filter (·.name = n)).getLast?) ∧
    t.size = (vs.map Variable.name).toFinset.card ∧
    ∀ name, t.get? name = (vs.filter (·.name = name)).getLast?.map Variable.value := by
  have hvs := Variables.entries_foldl_insert vs {}
  refine ⟨?_, ?_, ?_, ?_, fun name => Variables.get?_ofList vs name⟩
  · rw [Headers.entries_foldl_insert]
    have hnodup : ((Table.putAll Header.key hs []).map Header.key).Nodup :=
      Table.nodup_putAll List.nodup_nil
    exact (List.pairwise_map.1 hnodup).imp fun hne hsame => hne ((Header.key_eq_iff _ _).2 hsame)
  · rw [Headers.entries_foldl_insert]
    refine Table.map_some_putAll_by fun h h' => ?_
    rw [decide_eq_true_eq, Header.key_eq_iff]
  · rw [hvs]
    exact Table.map_some_putAll Variable.name vs
  · rw [Variables.size, hvs]
    exact Table.length_putAll Variable.name vs

end HttpSuite
