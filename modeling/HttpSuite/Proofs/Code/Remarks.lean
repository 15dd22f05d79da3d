import HttpSuite.Proofs.Code.Lines
import HttpSuite.Proofs.Path.Extension

/-!
# Functions and checks in code

Generated code is read here as text, line by line, for the functions that it defines and the checks
that it makes, and for the names that stand outside of its string literals. So it can be seen which
checks of a body compare without whitespace, and that the function they call is there.

* `Code.remarks`: the functions and checks of code.
* `Code.names`, `Code.outside`: the names that a line uses.
* `Code.remark?_of_isApart`, `Code.remark?_of_isCheckFront`, `Code.remark?_bodyLine`: what a line
  tells, by what it begins with.
* `Code.mentionsNormalize_withLiterals`: lines on which the function that removes whitespace is not
  named.
-/

namespace HttpSuite

namespace Code

/-! ## Reading -/

/-- What a line of code can tell: the beginning of a function, the check of a body, with whitespace
removed or not, or the statement of another check. -/
inductive Remark where
  | function (name : String)
  | bodyCheck (normalized : Bool) (text message : String)
  | check (statement : String)
  deriving DecidableEq, Repr

/-- What the first line of a helper function begins with. -/
def helperFront : List Char := spelled "fn " rfl

/-- What the first line of a test function begins with. -/
def testFront : List Char := spelled "async fn " rfl

/-- What the line of a check begins with. -/
def checkFront : List Char := spelled "    assert" rfl

/-- What the line of a check of the body begins with. -/
def bodyFront : Bool → List Char
  | true => spelled "    assert!(normalize_ws(&body).contains(&normalize_ws(" rfl
  | false => spelled "    assert!(body.contains(" rfl

/-- What stands between the text and the report in the check of a body. -/
def bodyMiddle : Bool → List Char
  | true => spelled ")), \"\x7b\x7d\", " rfl
  | false => spelled "), \"\x7b\x7d\", " rfl

/-- What the line of a check ends with. -/
def checkEnd : List Char := spelled ");" rfl

/-- The function that a line begins. -/
def readFunction? (front l : List Char) : Option Remark :=
  (front.isPrefixOf? l).map fun cs => .function (String.ofList (cs.takeWhile isNameChar))

/-- The check of a body that a line makes. -/
def readBodyCheck? (normalized : Bool) (l : List Char) : Option Remark := do
  let cs ← (bodyFront normalized).isPrefixOf? l
  let (text, cs) ← readLiteral cs
  let cs ← (bodyMiddle normalized).isPrefixOf? cs
  let (message, cs) ← readLiteral cs
  if cs = checkEnd then
    some (.bodyCheck normalized (String.ofList text) (String.ofList message))
  else none

/-- The statement of a check, without its indentation. -/
def readCheck? (l : List Char) : Option Remark :=
  if checkFront.isPrefixOf l then some (.check (String.ofList (l.drop 4))) else none

/-- What a line tells. -/
def remark? (l : List Char) : Option Remark :=
  readFunction? helperFront l <|> readFunction? testFront l <|> readBodyCheck? true l <|>
    readBodyCheck? false l <|> readCheck? l

/-- What code tells, line by line. -/
def remarks (cs : List Char) : List Remark := (Text.splitOn '\n' cs).filterMap remark?

/-- What stands outside of the string literals of a line, their quotes included. -/
def outside (quoted : Bool) : List Char → List Char
  | [] => []
  | '"' :: cs => '"' :: outside (!quoted) cs
  | '\\' :: c :: cs => if quoted then outside true cs else '\\' :: outside false (c :: cs)
  | c :: cs => if quoted then outside true cs else c :: outside false cs

/-- The names in a text: the parts between characters that cannot stand in a name. -/
def names (cs : List Char) : List (List Char) :=
  Text.splitOn ' ' (cs.map fun c => if isNameChar c then c else ' ')

/-- The name of the function that removes whitespace. -/
def normalizeName : List Char := spelled "normalize_ws" rfl

/-- Does a line use the function that removes whitespace, or define it? -/
def mentionsNormalize (l : List Char) : Bool := (names (outside false l)).contains normalizeName

/-! ## Names -/

theorem names_append_cons {c : Char} (hc : isNameChar c = false) (as bs : List Char) :
    names (as ++ c :: bs) = names as ++ names bs := by
  unfold names
  rw [List.map_append, List.map_cons, if_neg (by simp [hc]), Text.splitOn_append_cons]

theorem names_of_all {cs : List Char} (h : ∀ c ∈ cs, isNameChar c = true) : names cs = [cs] := by
  have hmap : (cs.map fun c => if isNameChar c then c else ' ') = cs :=
    (List.map_congr_left fun c hc => if_pos (h c hc)).trans (List.map_id cs)
  have hblank : ' ' ∉ cs := fun hm => absurd (h _ hm) (by decide)
  rw [names, hmap]
  exact Text.splitOn_of_not_mem hblank

/-- A name between characters that cannot stand in one. -/
theorem names_between {before name after : List Char} {c d : Char} (hc : isNameChar c = false)
    (hd : isNameChar d = false) (hn : ∀ e ∈ name, isNameChar e = true) :
    names (before ++ c :: (name ++ d :: after)) = names before ++ name :: names after := by
  rw [names_append_cons hc, names_append_cons hd, names_of_all hn, List.singleton_append]

/-- A name or a number between pieces of code in which the function that removes whitespace is not
named. -/
theorem not_mem_names_between {before name after : List Char} {c d : Char}
    (hc : isNameChar c = false) (hd : isNameChar d = false)
    (hn : ∀ e ∈ name, isNameChar e = true) (hb : normalizeName ∉ names before)
    (hname : name ≠ normalizeName) (ha : normalizeName ∉ names after) :
    normalizeName ∉ names (before ++ c :: (name ++ d :: after)) := by
  rw [names_between hc hd hn, List.mem_append, List.mem_cons, not_or, not_or]
  exact ⟨hb, Ne.symm hname, ha⟩

theorem isNameChar_of_mem_toString {n : Nat} : ∀ c ∈ (toString n).toList, isNameChar c = true := by
  intro c hc
  simp [isNameChar, isDigit_of_mem_toString c hc]

/-- A number is not a name with letters in it. -/
theorem toString_ne_normalizeName (n : Nat) : (toString n).toList ≠ normalizeName := by
  intro h
  have hn : 'n' ∈ (toString n).toList := h ▸ (by decide)
  exact absurd (isDigit_of_mem_toString _ hn) (by decide)

/-! ### Outside of literals -/

section

variable {cs front : List Char} {ps : List (String × List Char)}

/-- Bare code is outside of literals. -/
theorem outside_of_isBare (h : isBare cs = true) (rest : List Char) :
    outside false (cs ++ rest) = cs ++ outside false rest := by
  have hbare := mem_of_isBare h
  clear h
  induction cs with
  | nil => rfl
  | cons c cs ih =>
    obtain ⟨hc, hcs⟩ := List.forall_mem_cons.1 hbare
    rw [List.cons_append, outside, ih hcs]
    · rfl
    · intro he; exact hc.1 he
    · intro d ds he; exact absurd he hc.2.1

theorem outside_escapeChar (c : Char) (cs : List Char) :
    outside true (escapeChar c ++ cs) = outside true cs := by
  rcases escapeChar_cases c with ⟨e, he, -⟩ | ⟨he, hb, hq⟩
  · rw [he]
    rfl
  · rw [he, List.singleton_append, outside]
    · rfl
    · exact hq
    · intro d ds h; exact absurd h hb

/-- Of a literal only the quotes are outside. -/
theorem outside_literal (text : String) (rest : List Char) :
    outside false ((literal text).toList ++ rest) = '"' :: '"' :: outside false rest := by
  have hinside : ∀ cs : List Char, outside true (cs.flatMap escapeChar ++ '"' :: rest) =
      '"' :: outside false rest := by
    intro cs
    induction cs with
    | nil => rfl
    | cons c cs ih => rw [List.flatMap_cons, List.append_assoc, outside_escapeChar, ih]
  rw [toList_literal, List.cons_append, List.append_assoc, List.singleton_append]
  exact congrArg ('"' :: ·) (hinside text.toList)

/-- Bare code that does not name the function that removes whitespace. -/
theorem mentionsNormalize_of_isBare (h : isBare cs = true) (hn : normalizeName ∉ names cs) :
    mentionsNormalize cs = false := by
  have houtside : outside false cs = cs := by
    simpa [outside] using outside_of_isBare h []
  rw [mentionsNormalize, houtside, List.contains_eq_mem, decide_eq_false_iff_not]
  exact hn

/-- Code around literals of which only the quotes are left. -/
def withQuotes (front : List Char) (parts : List (List Char)) : List Char :=
  front ++ parts.flatMap fun part => '"' :: '"' :: part

theorem outside_withLiterals (hf : isBare front = true) (hp : (ps.map Prod.snd).all isBare = true) :
    outside false (withLiterals front ps) = withQuotes front (ps.map Prod.snd) := by
  have hparts : outside false (ps.flatMap fun p => (literal p.1).toList ++ p.2) =
      (ps.map Prod.snd).flatMap fun part => '"' :: '"' :: part := by
    induction ps with
    | nil => rfl
    | cons p ps ih =>
      rw [List.map_cons, List.all_cons, Bool.and_eq_true] at hp
      rw [List.flatMap_cons, List.append_assoc, outside_literal, outside_of_isBare hp.1, ih hp.2]
      simp
  rw [withLiterals, outside_of_isBare hf, hparts, withQuotes]

/-- Whatever the literals say, only the code around them names the function that removes
whitespace. -/
theorem mentionsNormalize_withLiterals (hf : isBare front = true)
    (hp : (ps.map Prod.snd).all isBare = true)
    (hn : normalizeName ∉ names (withQuotes front (ps.map Prod.snd))) :
    mentionsNormalize (withLiterals front ps) = false := by
  rw [mentionsNormalize, outside_withLiterals hf hp, List.contains_eq_mem, decide_eq_false_iff_not]
  exact hn

end

/-! ## Lines -/

/-- A remark on the function that removes whitespace, or on a check that calls it. -/
def Remark.normalizes : Remark → Bool
  | function name => name = "normalize_ws"
  | bodyCheck normalized _ _ => normalized
  | check _ => false

/-- The texts that the lines begin with that tell something. -/
def remarkFronts : List (List Char) := [helperFront, testFront, checkFront]

/-- A line that begins with none of the fronts tells nothing. -/
theorem remark?_eq_none {l : List Char} (h : ∀ q ∈ remarkFronts, q.isPrefixOf? l = none) :
    remark? l = none := by
  have hcheck : checkFront.isPrefixOf l = false := by
    rw [← List.isSome_isPrefixOf?_eq_isPrefixOf, h checkFront (by simp [remarkFronts])]
    rfl
  have hbody (b : Bool) : readBodyCheck? b l = none := by
    have hfront : checkFront <+: bodyFront b := by cases b <;> decide
    have hnone : (bodyFront b).isPrefixOf? l = none := by
      cases ho : (bodyFront b).isPrefixOf? l with
      | none => rfl
      | some cs =>
        rw [← List.append_eq_of_isPrefixOf?_eq_some ho] at hcheck
        have hpre := hfront.trans (List.prefix_append (bodyFront b) cs)
        rw [List.isPrefixOf_iff_prefix.2 hpre] at hcheck
        cases hcheck
    rw [readBodyCheck?, hnone]
    rfl
  simp [remark?, readFunction?, h helperFront (by simp [remarkFronts]),
    h testFront (by simp [remarkFronts]), hbody, readCheck?, hcheck]

theorem remark?_of_isApart {front : List Char} (h : isApart remarkFronts front = true)
    (rest : List Char) : remark? (front ++ rest) = none :=
  remark?_eq_none fun _ hq => isPrefixOf?_of_isApart h hq rest

/-- The line of a check of the body. -/
def bodyLine (normalized : Bool) (text message : String) : List Char :=
  bodyFront normalized ++ ((literal text).toList ++ (bodyMiddle normalized ++
    ((literal message).toList ++ checkEnd)))

theorem readBodyCheck?_bodyLine (normalized : Bool) (text message : String) :
    readBodyCheck? normalized (bodyLine normalized text message) =
      some (.bodyCheck normalized text message) := by
  unfold readBodyCheck? bodyLine
  simp only [isPrefixOf?_append, readLiteral_literal, Option.bind_eq_bind, Option.bind_some,
    if_true, String.ofList_toList]

/-- **The check of a body** tells how it compares, the text and the message. -/
theorem remark?_bodyLine (normalized : Bool) (text message : String) :
    remark? (bodyLine normalized text message) = some (.bodyCheck normalized text message) := by
  have hapart : isApart [helperFront, testFront] (bodyFront normalized) = true := by
    cases normalized <;> decide
  have hfunction : ∀ q ∈ [helperFront, testFront],
      readFunction? q (bodyLine normalized text message) = none := by
    intro q hq
    rw [readFunction?, bodyLine, isPrefixOf?_of_isApart hapart hq]
    rfl
  have hread := readBodyCheck?_bodyLine normalized text message
  rw [remark?, hfunction helperFront (by simp), hfunction testFront (by simp)]
  cases normalized with
  | true =>
    rw [hread]
    rfl
  | false =>
    -- the two kinds of checks differ right after the bracket
    have hother : readBodyCheck? true (bodyLine false text message) = none := by
      rw [readBodyCheck?, bodyLine, isPrefixOf?_eq_none (by decide) (by decide)]
      rfl
    rw [hother, hread]
    rfl

/-- A text with which only lines of checks begin that are not checks of the body. -/
def isCheckFront (front : List Char) : Bool :=
  checkFront.isPrefixOf front && isApart [helperFront, testFront, bodyFront true, bodyFront false] front

/-- Any other check tells its statement. -/
theorem remark?_of_isCheckFront {front : List Char} (h : isCheckFront front = true)
    (rest : List Char) :
    remark? (front ++ rest) = some (.check (String.ofList ((front ++ rest).drop 4))) := by
  rw [isCheckFront, Bool.and_eq_true] at h
  have hcheck : checkFront.isPrefixOf (front ++ rest) = true :=
    List.isPrefixOf_iff_prefix.2
      ((List.isPrefixOf_iff_prefix.1 h.1).trans (List.prefix_append _ _))
  have hnone {q : List Char} (hq : q ∈ [helperFront, testFront, bodyFront true, bodyFront false]) :
      q.isPrefixOf? (front ++ rest) = none := isPrefixOf?_of_isApart h.2 hq rest
  have hfunction : readFunction? helperFront (front ++ rest) = none ∧
      readFunction? testFront (front ++ rest) = none := by
    rw [readFunction?, readFunction?, hnone (by simp), hnone (by simp)]
    exact ⟨rfl, rfl⟩
  have hbody (b : Bool) : readBodyCheck? b (front ++ rest) = none := by
    rw [readBodyCheck?, hnone (by cases b <;> simp)]
    rfl
  rw [remark?, hfunction.1, hfunction.2, hbody, hbody, readCheck?, if_pos hcheck]
  rfl

/-- The first line of the function of a test. -/
theorem remark?_test {name rest : List Char} {c : Char} (hn : ∀ e ∈ name, isNameChar e = true)
    (hc : isNameChar c = false) :
    remark? (testFront ++ (name ++ c :: rest)) = some (.function (String.ofList name)) := by
  have htaken : (name ++ c :: rest).takeWhile isNameChar = name := by
    rw [List.takeWhile_append_of_pos hn, List.takeWhile_cons_of_neg (by simp [hc]), List.append_nil]
  rw [remark?, readFunction?, readFunction?, isPrefixOf?_eq_none (by decide) (by decide),
    isPrefixOf?_append, Option.map_some, htaken]
  rfl

end Code

end HttpSuite
