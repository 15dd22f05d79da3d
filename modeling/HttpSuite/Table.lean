/-!
# Keyed lists

A list of entries found by a key, in the order in which the keys first came. Writing an entry whose
key is already there replaces that entry where it stands.
-/

namespace HttpSuite.Table

variable {α κ : Type} [DecidableEq κ]

/-- Writes `a`: in the place of the first entry with its key, or else at the end. -/
def put (key : α → κ) (a : α) : List α → List α
  | [] => [a]
  | b :: bs => if key b = key a then a :: bs else b :: put key a bs

/-- The first entry with the key `k`. -/
def find? (key : α → κ) (k : κ) (entries : List α) : Option α :=
  entries.find? fun a => key a = k

theorem find?_put_self (key : α → κ) (a : α) (entries : List α) :
    find? key (key a) (put key a entries) = some a := by
  induction entries with
  | nil => simp [find?, put]
  | cons b bs ih =>
    unfold put
    split
    · simp [find?]
    · rename_i h
      simpa [find?, List.find?_cons, h] using ih

theorem find?_put_of_ne (key : α → κ) {a : α} {k : κ} (h : k ≠ key a) (entries : List α) :
    find? key k (put key a entries) = find? key k entries := by
  induction entries with
  | nil => simp [find?, put, Ne.symm h]
  | cons b bs ih =>
    unfold put
    split
    · rename_i hb
      simp [find?, hb, Ne.symm h]
    · by_cases hk : key b = k
      · simp [find?, hk]
      · simpa [find?, List.find?_cons, hk] using ih

end HttpSuite.Table
