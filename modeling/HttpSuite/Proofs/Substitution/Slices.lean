import HttpSuite.Proofs.Token.Written
import HttpSuite.Substitution

/-!
# Substitution by slices

A text that is held as bytes is cut by counting them, and a cut within a character is not a text.
Substitution looks for the byte where a reference begins and for the byte where its name ends, and
cuts there. It is written out here with cuts that may fail, and none of them does.

* `splitAtByte?`: a text cut at a byte, if that is a boundary between two characters.
* `findByte?`: the byte at which the first character of a class begins.
* `Variables.expandSlices?`: substitution by cuts.
* `Variables.expandSlices?_eq`: every cut is at a boundary, and the text is the same.
-/

namespace HttpSuite

/-- The two parts of a text that is cut before the byte `n`; nothing if that byte is within a
character or behind the text. -/
def splitAtByte? : Nat → List Char → Option (List Char × List Char)
  | 0, cs => some ([], cs)
  | _ + 1, [] => none
  | n + 1, c :: cs =>
    if n + 1 < c.utf8Size then none
    else (splitAtByte? (n + 1 - c.utf8Size) cs).map fun (front, rest) => (c :: front, rest)

/-- **A text can be cut where a front of it ends**, and nowhere else. -/
theorem splitAtByte?_eq_some {n : Nat} {cs front rest : List Char} :
    splitAtByte? n cs = some (front, rest) ↔ cs = front ++ rest ∧ byteLength front = n := by
  induction cs generalizing n front rest with
  | nil =>
    cases n with
    | zero => cases front <;> simp [splitAtByte?, eq_comm]
    | succ n => cases front <;> simp [splitAtByte?]
  | cons c cs ih =>
    have hc := c.utf8Size_pos
    cases n with
    | zero =>
      cases front with
      | nil => simp [splitAtByte?]
      | cons d front =>
        have hd := d.utf8Size_pos
        simp only [splitAtByte?, Option.some.injEq, Prod.mk.injEq, byteLength_cons]
        constructor
        · rintro ⟨h, -⟩
          cases h
        · rintro ⟨-, h⟩
          omega
    | succ n =>
      rw [splitAtByte?]
      split
      -- the cut falls into the first character, where nothing can be split
      · rename_i hlt
        refine ⟨fun h => (Option.some_ne_none _ h.symm).elim, ?_⟩
        rintro ⟨hcs, hlen⟩
        cases front with
        | nil => cases hlen
        | cons d front =>
          obtain ⟨rfl, -⟩ := List.cons.inj hcs
          rw [byteLength_cons] at hlen
          omega
      -- the cut falls behind it, so it is the cut of the rest by as many bytes less
      · rename_i hle
        rw [Option.map_eq_some_iff]
        constructor
        · rintro ⟨⟨front', rest'⟩, hsplit, heq⟩
          obtain ⟨rfl, hlen⟩ := ih.1 hsplit
          obtain ⟨rfl, rfl⟩ := Prod.mk.inj heq
          refine ⟨rfl, ?_⟩
          rw [byteLength_cons, hlen]
          omega
        · rintro ⟨hcs, hlen⟩
          cases front with
          | nil => cases hlen
          | cons d front =>
            obtain ⟨rfl, rfl⟩ := List.cons.inj hcs
            rw [byteLength_cons] at hlen
            exact ⟨(front, rest), ih.2 ⟨rfl, by omega⟩, rfl⟩

/-- The byte at which the first character with `p` begins, if there is one. -/
def findByte? (p : Char → Bool) : List Char → Option Nat
  | [] => none
  | c :: cs => if p c then some 0 else (findByte? p cs).map (c.utf8Size + ·)

/-- The first character with `p` begins behind those without it. -/
theorem findByte?_eq_some {p : Char → Bool} {cs : List Char} {n : Nat}
    (h : findByte? p cs = some n) :
    ∃ front c rest, cs = front ++ c :: rest ∧ (∀ d ∈ front, p d = false) ∧ p c = true ∧
      n = byteLength front := by
  induction cs generalizing n with
  | nil => cases h
  | cons c cs ih =>
    rw [findByte?] at h
    split at h
    · rename_i hc
      exact ⟨[], c, cs, rfl, by simp, hc, (Option.some.inj h).symm⟩
    · rename_i hc
      obtain ⟨m, hm, rfl⟩ := Option.map_eq_some_iff.1 h
      obtain ⟨front, d, rest, rfl, hfront, hd, rfl⟩ := ih hm
      refine ⟨c :: front, d, rest, rfl, ?_, hd, rfl⟩
      exact List.forall_mem_cons.2 ⟨by simpa using hc, hfront⟩

theorem findByte?_eq_none {p : Char → Bool} {cs : List Char} (h : findByte? p cs = none) :
    ∀ c ∈ cs, p c = false := by
  induction cs with
  | nil => simp
  | cons c cs ih =>
    rw [findByte?] at h
    split at h
    · cases h
    · rename_i hc
      exact List.forall_mem_cons.2 ⟨by simpa using hc, ih (Option.map_eq_none_iff.1 h)⟩

/-- A run of characters ends before the first one without `p`, or with the text. -/
theorem splitAtByte?_run (p : Char → Bool) (cs : List Char) :
    splitAtByte? ((findByte? (!p ·) cs).getD (byteLength cs)) cs =
      some (cs.takeWhile p, cs.dropWhile p) := by
  rw [splitAtByte?_eq_some]
  refine ⟨List.takeWhile_append_dropWhile.symm, ?_⟩
  cases h : findByte? (!p ·) cs with
  | none =>
    have hall : ∀ c ∈ cs, p c = true := by simpa using findByte?_eq_none h
    have hrun := (Front.takeWhile_append_of_stop (b := []) hall (by simp)).1
    rw [List.append_nil] at hrun
    rw [hrun]
    rfl
  | some n =>
    obtain ⟨front, c, rest, rfl, hfront, hc, rfl⟩ := findByte?_eq_some h
    have hrun := Front.takeWhile_append_of_stop (a := front) (b := c :: rest) (p := p)
      (by simpa using hfront) (by simpa using hc)
    rw [hrun.1]
    rfl

namespace Variables

/-- Replaces the references in a text by cutting it: before a `$` and behind it, and behind the name
that follows. Nothing if it cannot be cut there. -/
def expandSlices? (t : Variables) (rest : List Char) : Option (List Char) :=
  match findByte? (· = '$') rest with
  | none => some rest
  | some pos =>
    match splitAtByte? pos rest with
    | none => none
    | some (front, _) =>
      match _hafter : splitAtByte? (pos + 1) rest with
      | none => none
      | some (_dollar, after) =>
        match _hrest : splitAtByte? ((findByte? (!isNameChar ·) after).getD (byteLength after))
            after with
        | none => none
        | some (name, rest') =>
          (expandSlices? t rest').map fun tail => front ++ (t.resolve name ++ tail)
termination_by rest.length
decreasing_by
  obtain ⟨rfl, hpos⟩ := splitAtByte?_eq_some.1 _hafter
  obtain ⟨rfl, -⟩ := splitAtByte?_eq_some.1 _hrest
  cases _dollar with
  | nil => cases hpos
  | cons c cs =>
    simp only [List.cons_append, List.length_cons, List.length_append]
    omega

theorem expand_of_no_dollar (t : Variables) {front : List Char} (h : ∀ c ∈ front, c ≠ '$')
    (rest : List Char) : t.expand (front ++ rest) = front ++ t.expand rest := by
  induction front with
  | nil => rfl
  | cons c cs ih =>
    obtain ⟨hc, hcs⟩ := List.forall_mem_cons.1 h
    rw [List.cons_append, expand, if_neg hc, ih hcs, List.cons_append]

/-- **Every cut is at a boundary within the text**, for any table and any text. -/
theorem expandSlices?_eq (t : Variables) (text : List Char) :
    t.expandSlices? text = some (t.expand text) := by
  induction hn : text.length using Nat.strongRecOn generalizing text with
  | ind n ih =>
  subst hn
  rw [expandSlices?]
  cases h : findByte? (· = '$') text with
  | none =>
    have hno : ∀ c ∈ text, c ≠ '$' := by simpa using findByte?_eq_none h
    have hexpand := t.expand_of_no_dollar hno []
    rw [List.append_nil, expand, List.append_nil] at hexpand
    rw [hexpand]
  | some pos =>
    obtain ⟨front, c, after, rfl, hno, hc, rfl⟩ := findByte?_eq_some h
    obtain rfl : c = '$' := by simpa using hc
    -- the `$` is one byte wide
    have hfront : splitAtByte? (byteLength front) (front ++ '$' :: after) =
        some (front, '$' :: after) := splitAtByte?_eq_some.2 ⟨rfl, rfl⟩
    have hafter : splitAtByte? (byteLength front + 1) (front ++ '$' :: after) =
        some (front ++ ['$'], after) := splitAtByte?_eq_some.2 ⟨by simp, by simp; decide⟩
    have hlt : (after.dropWhile isNameChar).length < (front ++ '$' :: after).length := by
      have hle := (List.dropWhile_suffix (l := after) isNameChar).length_le
      simp only [List.length_append, List.length_cons]
      omega
    rw [t.expand_of_no_dollar (by simpa using hno), expand, if_pos rfl]
    simp only [hfront]
    split
    · rename_i hsplit
      rw [hafter] at hsplit
      cases hsplit
    · rename_i hsplit
      rw [hafter] at hsplit
      cases hsplit
      split
      · rename_i hrun
        rw [splitAtByte?_run] at hrun
        cases hrun
      · rename_i hrun
        rw [splitAtByte?_run] at hrun
        cases hrun
        rw [ih _ hlt _ rfl]
        rfl

end Variables

end HttpSuite
