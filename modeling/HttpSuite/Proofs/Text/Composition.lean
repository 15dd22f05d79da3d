import HttpSuite.Text.Composition

/-!
# Composed forms side by side

Nothing joins with an underscore, so what stands before it and what follows it are composed by
themselves.

* `Text.joined?_underscore`: an underscore is the first part of no character.
* `Text.compose_append_underscore`: the composed form of a text with an underscore in it.
-/

namespace HttpSuite.Text

theorem combiningClasses_le : ∀ r ∈ combiningClasses, 0x300 ≤ r.1 := by
  have hall : (combiningClasses.toList.all fun r => 0x300 ≤ r.1) = true := by decide +kernel
  simpa only [List.all_eq_true, Array.mem_toList_iff, decide_eq_true_eq] using hall

/-- Only marks have a class of their own. -/
theorem combiningClass_of_lt {c : Char} (h : c.toNat < 0x300) : combiningClass c = 0 := by
  cases hrow : rowAt? combiningClasses c.toNat with
  | none => rw [combiningClass, hrow, Option.map_none, Option.getD_none]
  | some r =>
    have hlow := (searchBetween_bounds hrow).1
    have hmark := combiningClasses_le r (searchBetween_mem hrow)
    simp only at hlow
    omega

theorem joined?_of_lt (a : Char) {b : Char} (h : b.toNat < 0x300) : joined? a b = none :=
  if_pos h

theorem find?_eq_none_of_ne {rows : Array (Nat × Nat × Nat)} {a : Nat}
    (h : ∀ r ∈ rows, r.2.1 ≠ a) (b : Nat) :
    rows.find? (fun r => r.2.1 = a && r.2.2 = b) = none := by
  rw [Array.find?_eq_none]
  intro r hr
  simp [h r hr]

theorem composites_ne_underscore : ∀ r ∈ composites, r.2.1 ≠ '_'.toNat := by
  have hall : (composites.toList.all fun r => r.2.1 != '_'.toNat) = true := by decide +kernel
  simpa only [List.all_eq_true, Array.mem_toList_iff, bne_iff_ne] using hall

theorem hangul?_underscore (b : Nat) : hangul? '_'.toNat b = none := by
  simp [hangul?]

/-- **An underscore is the first part of no character.** -/
theorem joined?_underscore (b : Char) : joined? '_' b = none := by
  rw [joined?, hangul?_underscore, find?_eq_none_of_ne composites_ne_underscore]
  split <;> rfl

/-! ### The steps of composition -/

variable {as bs : List Char}

theorem flatMap_decompose_of_lt (h : ∀ c ∈ as, c.toNat < 0xC0) : as.flatMap decompose = as := by
  induction as with
  | nil => rfl
  | cons c as ih =>
    rw [List.flatMap_cons, decompose, if_pos (h c (by simp)), ih fun d hd => h d (by simp [hd]),
      List.singleton_append]

/-- Characters that are no marks stay where they are. -/
theorem orderMarks_append (h : ∀ c ∈ as, combiningClass c = 0) :
    orderMarks (as ++ bs) = as ++ orderMarks bs := by
  induction as with
  | nil => rfl
  | cons c as ih =>
    rw [List.cons_append, orderMarks, if_pos (h c (by simp)), ih fun d hd => h d (by simp [hd]),
      List.cons_append]

theorem joinAll_of_starter {c : Char} (h : combiningClass c = 0) (cs : List Char) :
    joinAll (c :: cs) = joinAfter c [] cs :=
  if_pos h

/-- A character that is no mark and joins with nothing before it ends what may be joined. -/
theorem joinAfter_of_lt (starter : Char) {c : Char} (h : c.toNat < 0x300) (cs : List Char) :
    joinAfter starter [] (c :: cs) = starter :: joinAfter c [] cs := by
  rw [joinAfter]
  simp only [joined?_of_lt starter h, ite_self, combiningClass_of_lt h, if_true,
    List.reverse_nil, List.singleton_append]

/-- What follows an underscore is joined by itself, whatever marks are held back. -/
theorem joinAfter_underscore (held cs : List Char) :
    joinAfter '_' held cs = '_' :: (held.reverse ++ joinAll cs) := by
  induction cs generalizing held with
  | nil => rw [joinAfter, joinAll, List.append_nil]
  | cons c cs ih =>
    rw [joinAfter, joinAll]
    simp only [joined?_underscore, ite_self]
    split
    · rw [List.cons_append]
    · rw [ih, List.reverse_cons, List.append_assoc, List.singleton_append]

theorem joinAfter_append_underscore (h : ∀ c ∈ as, c.toNat < 0x300) (starter : Char) :
    joinAfter starter [] (as ++ '_' :: bs) = starter :: (as ++ '_' :: joinAll bs) := by
  induction as generalizing starter with
  | nil =>
    rw [List.nil_append, joinAfter_of_lt starter (by decide), joinAfter_underscore,
      List.reverse_nil, List.nil_append, List.nil_append]
  | cons c as ih =>
    rw [List.cons_append, joinAfter_of_lt starter (h c (by simp)),
      ih (fun d hd => h d (by simp [hd])), List.cons_append]

theorem joinAll_append_underscore (h : ∀ c ∈ as, c.toNat < 0x300) :
    joinAll (as ++ '_' :: bs) = as ++ '_' :: joinAll bs := by
  cases as with
  | nil =>
    rw [List.nil_append, joinAll_of_starter (combiningClass_of_lt (by decide)),
      joinAfter_underscore, List.reverse_nil, List.nil_append, List.nil_append]
  | cons c as =>
    rw [List.cons_append, joinAll_of_starter (combiningClass_of_lt (h c (by simp))),
      joinAfter_append_underscore (fun d hd => h d (by simp [hd])), List.cons_append]

/-- **What follows an underscore is composed by itself**, and simple characters before it stay as they
are. -/
theorem compose_append_underscore (h : ∀ c ∈ as, c.toNat < 0xC0) (bs : List Char) :
    compose (as ++ '_' :: bs) = as ++ '_' :: compose bs := by
  have hlow : ∀ c ∈ as ++ ['_'], c.toNat < 0xC0 := by
    intro c hc
    rcases List.mem_append.1 hc with hc | hc
    · exact h c hc
    · obtain rfl := List.mem_singleton.1 hc
      decide
  have hstarters : ∀ c ∈ as ++ ['_'], combiningClass c = 0 := fun c hc =>
    combiningClass_of_lt (Nat.lt_trans (hlow c hc) (by decide))
  have hsplit : ∀ cs : List Char, as ++ '_' :: cs = as ++ ['_'] ++ cs := by simp
  unfold compose
  rw [hsplit bs, List.flatMap_append, flatMap_decompose_of_lt hlow, orderMarks_append hstarters,
    ← hsplit, joinAll_append_underscore fun c hc => Nat.lt_trans (h c hc) (by decide)]

end HttpSuite.Text
