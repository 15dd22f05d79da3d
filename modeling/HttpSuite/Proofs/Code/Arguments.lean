import HttpSuite.Field
import HttpSuite.Proofs.Code.Lines

/-!
# What the code hands on

Generated code is read here as text: comments are skipped, and every string literal is found with
the code that stands before it. That code tells where the literal goes: to the helper that builds
the name of a header field, to the one that builds a value, or to the one that looks up a header of
the response. A status stands in the code itself, before the literal of the report.

* `quotations`: the literals of a text, each with the code before it.
* `handed`: what the code in a text hands on.
* `Hands`: code that hands on the same whatever stands around it, and `Hands.of_literals` for code
  around literals.
-/

namespace HttpSuite

namespace Code

/-- A string literal in code: the code since the literal before it, its last character first, and
what the literal reads back to. -/
structure Quotation where
  before : List Char
  text : String
  deriving DecidableEq, Repr

/-- The string literals of code that follows `before`. A comment runs to the end of its line. -/
def quotations (before : List Char) (cs : List Char) : List Quotation :=
  match cs with
  | [] => []
  | '"' :: rest =>
    match _h : readContent rest with
    | some (text, rest') => ⟨before, String.ofList text⟩ :: quotations [] rest'
    | none => []
  | '/' :: '/' :: rest => quotations before (rest.dropWhile (· ≠ '\n'))
  | c :: rest => quotations (c :: before) rest
termination_by cs.length
decreasing_by
  · exact Nat.lt_succ_of_lt (length_of_readContent ‹_›)
  · exact Nat.lt_succ_of_le (Nat.le_succ_of_le (List.dropWhile_suffix _).length_le)
  · exact Nat.lt_succ_self _

/-- Code without quotes and slashes. -/
def Plain (cs : List Char) : Prop := ∀ c ∈ cs, c ≠ '"' ∧ c ≠ '/'

theorem Plain.of_isBare {cs : List Char} (h : isBare cs = true) : Plain cs := fun c hc =>
  ⟨(mem_of_isBare h c hc).1, (mem_of_isBare h c hc).2.2.1⟩

/-- Code without literals and comments is passed over. -/
theorem quotations_plain {cs : List Char} (h : Plain cs) (before rest : List Char) :
    quotations before (cs ++ rest) = quotations (cs.reverse ++ before) rest := by
  induction cs generalizing before with
  | nil => rfl
  | cons c cs ih =>
    obtain ⟨hq, hs⟩ := h c (by simp)
    rw [List.cons_append, quotations, ih (fun d hd => h d (by simp [hd]))]
    · simp
    · intro h; exact absurd h hq
    · intro r h; exact absurd h hs

/-- A literal is found with the code before it, and none of that code stands before the next one. -/
theorem quotations_literal (text : String) (before rest : List Char) :
    quotations before ((literal text).toList ++ rest) = ⟨before, text⟩ :: quotations [] rest := by
  rw [toList_literal, List.cons_append, List.append_assoc, quotations]
  split
  · rename_i text' rest' h
    rw [List.singleton_append, readContent_escape] at h
    cases h
    simp
  · rename_i h
    rw [List.singleton_append, readContent_escape] at h
    cases h

/-- A comment is skipped up to the end of its line. -/
theorem quotations_comment {text : List Char} (h : '\n' ∉ text) (before rest : List Char) :
    quotations before ('/' :: '/' :: text ++ '\n' :: rest) = quotations before ('\n' :: rest) := by
  have hskip : (text ++ '\n' :: rest).dropWhile (· ≠ '\n') = '\n' :: rest := by
    rw [List.dropWhile_append_of_pos (by
      intro c hc
      have hne : c ≠ '\n' := fun he => h (he ▸ hc)
      simpa using hne)]
    simp
  rw [List.cons_append, List.cons_append, quotations, hskip]

/-- What code hands to a helper, or compares a status with. -/
inductive Argument where
  | fieldName (name : String)
  | fieldValue (value : String)
  | responseName (name : String)
  | status (code : Nat)
  deriving DecidableEq, Repr

/-- Does this code stand right before a literal? -/
def Quotation.follows (q : Quotation) (code : String) : Bool :=
  code.toList.reverse.isPrefixOf q.before

/-- The number that the status is compared with, right before a literal. -/
def Quotation.comparedStatus? (q : Quotation) : Option Nat :=
  match q.before with
  | ' ' :: ',' :: rest =>
    if "assert_eq!(status, ".toList.reverse.isPrefixOf (rest.dropWhile Char.isDigit) then
      some (Nat.ofDigitChars 10 (rest.takeWhile Char.isDigit).reverse 0)
    else none
  | _ => none

/-- What a literal is handed to, by the code before it. -/
def Quotation.argument? (q : Quotation) : Option Argument :=
  if q.follows "header_name(" then some (.fieldName q.text)
  else if q.follows "header_value(" then some (.fieldValue q.text)
  else if q.follows "response_header(&resp_headers, " then some (.responseName q.text)
  else q.comparedStatus?.map .status

/-- What code hands on, in order, when it follows `before`. -/
def arguments (before cs : List Char) : List Argument :=
  (quotations before cs).filterMap Quotation.argument?

/-- What the code in a text hands on. -/
def handed (text : String) : List Argument := arguments [] text.toList

section

variable {cs ds front : List Char} {as bs : List Argument} {ps : List (String × List Char)}

theorem arguments_plain (h : Plain cs) (before rest : List Char) :
    arguments before (cs ++ rest) = arguments (cs.reverse ++ before) rest := by
  rw [arguments, quotations_plain h, arguments]

theorem arguments_literal (text : String) (before rest : List Char) :
    arguments before ((literal text).toList ++ rest) =
      (Quotation.argument? ⟨before, text⟩).toList ++ arguments [] rest := by
  rw [arguments, quotations_literal, List.filterMap_cons, arguments]
  cases Quotation.argument? ⟨before, text⟩ with
  | none => rfl
  | some a => rfl

/-- The number that the status is compared with at the end of `before`, with the code that tells it
by its characters. -/
def statusBefore? (before : List Char) : Option Nat :=
  match before with
  | ' ' :: ',' :: rest =>
    if (spelled "assert_eq!(status, " rfl).reverse.isPrefixOf (rest.dropWhile Char.isDigit) then
      some (Nat.ofDigitChars 10 (rest.takeWhile Char.isDigit).reverse 0)
    else none
  | _ => none

/-- What a literal after `before` is handed to, with the code that tells it by its characters. -/
def argumentAfter? (before : List Char) (text : String) : Option Argument :=
  if (spelled "header_name(" rfl).reverse.isPrefixOf before then some (.fieldName text)
  else if (spelled "header_value(" rfl).reverse.isPrefixOf before then some (.fieldValue text)
  else if (spelled "response_header(&resp_headers, " rfl).reverse.isPrefixOf before then
    some (.responseName text)
  else (statusBefore? before).map .status

theorem Quotation.comparedStatus?_eq (before : List Char) (text : String) :
    Quotation.comparedStatus? ⟨before, text⟩ = statusBefore? before := by
  unfold Quotation.comparedStatus? statusBefore?
  simp only [spelled_eq]

/-- What a literal is handed to is told by the code before it. -/
theorem Quotation.argument?_eq (before : List Char) (text : String) :
    Quotation.argument? ⟨before, text⟩ = argumentAfter? before text := by
  simp only [Quotation.argument?, Quotation.follows, Quotation.comparedStatus?_eq, argumentAfter?,
    spelled_eq]

/-- The number of a status is found before the literal that follows it. -/
theorem argumentAfter?_status (code : Nat) (before : List Char) (text : String) :
    argumentAfter? ((spelled "assert_eq!(status, " rfl ++
      ((toString code).toList ++ spelled ", " rfl)).reverse ++ before) text =
        some (.status code) := by
  have hcode : Nat.ofDigitChars 10 (toString code).toList 0 = code := by
    simp [Nat.ofDigitChars_toDigits]
  -- the code is read backwards, so the last digit of the number comes first
  obtain ⟨d, ds, hds⟩ : ∃ d ds, (toString code).toList.reverse = d :: ds :=
    List.exists_cons_of_ne_nil (by simp)
  have hdigits : ∀ c ∈ d :: ds, c.isDigit = true := by
    intro c hc
    rw [← hds, List.mem_reverse] at hc
    exact isDigit_of_mem_toString c hc
  have hd : d ≠ 's' := by
    rintro rfl
    exact absurd (hdigits 's' List.mem_cons_self) (by decide)
  have hbefore : (spelled "assert_eq!(status, " rfl ++
      ((toString code).toList ++ spelled ", " rfl)).reverse ++ before =
        ' ' :: ',' :: (d :: ds ++ ((spelled "assert_eq!(status, " rfl).reverse ++ before)) := by
    rw [List.reverse_append, List.reverse_append, hds]
    simp [spelled]
  have hnumber : (d :: ds ++ ((spelled "assert_eq!(status, " rfl).reverse ++ before)).takeWhile
      Char.isDigit = d :: ds := by
    rw [List.takeWhile_append_of_pos hdigits]
    exact List.append_nil _
  have hrest : (d :: ds ++ ((spelled "assert_eq!(status, " rfl).reverse ++ before)).dropWhile
      Char.isDigit = (spelled "assert_eq!(status, " rfl).reverse ++ before := by
    rw [List.dropWhile_append_of_pos hdigits]
    rfl
  have hself : (spelled "assert_eq!(status, " rfl).reverse.isPrefixOf
      ((spelled "assert_eq!(status, " rfl).reverse ++ before) = true :=
    List.isPrefixOf_iff_prefix.2 (List.prefix_append _ _)
  rw [hbefore, argumentAfter?, if_neg (by simp [spelled]), if_neg (by simp [spelled]),
    if_neg (by simp [spelled, List.isPrefixOf, hd.symm]), statusBefore?]
  simp only [hnumber, hrest, hself, if_true, Option.map_some]
  rw [← hds, List.reverse_reverse, hcode]

/-- What literals are handed to when the first one follows `before`. -/
def argumentsAround (before : List Char) : List (String × List Char) → List Argument
  | [] => []
  | (text, code) :: ps => (argumentAfter? before text).toList ++ argumentsAround code.reverse ps

/-- The code behind a literal is all that counts for the next one. -/
theorem arguments_literals (hp : (ps.map Prod.snd).all isBare = true) (before rest : List Char) :
    ∃ before', arguments before ((ps.flatMap fun p => (literal p.1).toList ++ p.2) ++ rest) =
      argumentsAround before ps ++ arguments before' rest := by
  induction ps generalizing before with
  | nil => exact ⟨before, rfl⟩
  | cons p ps ih =>
    obtain ⟨text, code⟩ := p
    rw [List.map_cons, List.all_cons, Bool.and_eq_true] at hp
    obtain ⟨before', hrest⟩ := ih hp.2 code.reverse
    refine ⟨before', ?_⟩
    rw [List.flatMap_cons, List.append_assoc, List.append_assoc, arguments_literal,
      arguments_plain (.of_isBare hp.1), List.append_nil, hrest, Quotation.argument?_eq,
      argumentsAround, List.append_assoc]

/-- Code that hands on `as`, whatever stands around it. -/
def Hands (cs : List Char) (as : List Argument) : Prop :=
  ∀ before rest, ∃ before', arguments before (cs ++ rest) = as ++ arguments before' rest

namespace Hands

theorem nil : Hands [] [] := fun before _ => ⟨before, rfl⟩

theorem append (hc : Hands cs as) (hd : Hands ds bs) : Hands (cs ++ ds) (as ++ bs) := by
  intro before rest
  obtain ⟨before₁, h₁⟩ := hc before (ds ++ rest)
  obtain ⟨before₂, h₂⟩ := hd before₁ rest
  exact ⟨before₂, by rw [List.append_assoc, h₁, h₂, List.append_assoc]⟩

theorem plain (h : Plain cs) : Hands cs [] := fun before rest =>
  ⟨cs.reverse ++ before, arguments_plain h before rest⟩

/-- The end of a line. -/
theorem newline (h : Hands cs as) : Hands (cs ++ ['\n']) as := by
  simpa using h.append (plain (show Plain ['\n'] by simp [Plain]))

/-- **Code around literals** hands on what the code before each literal says. -/
theorem of_literals (hf : isBare front = true) (hp : (ps.map Prod.snd).all isBare = true)
    (ha : ∀ before, argumentsAround (front.reverse ++ before) ps = as) :
    Hands (withLiterals front ps) as := by
  intro before rest
  rw [withLiterals, List.append_assoc, arguments_plain (.of_isBare hf)]
  simpa only [ha] using arguments_literals hp (front.reverse ++ before) rest

/-- A line that is a comment. -/
theorem comment {text : List Char} (h : '\n' ∉ text) : Hands ('/' :: '/' :: text ++ ['\n']) [] := by
  intro before rest
  refine ⟨'\n' :: before, ?_⟩
  rw [List.append_assoc, List.singleton_append, arguments, quotations_comment h]
  exact arguments_plain (show Plain ['\n'] by simp [Plain]) before rest

end Hands

end

end Code

end HttpSuite
