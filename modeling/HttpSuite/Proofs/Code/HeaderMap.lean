import HttpSuite.Field
import HttpSuite.Proofs.Code.Lines
import HttpSuite.Proofs.Path

/-!
# The headers that code sends

Generated code is executed here as text, line by line, as far as headers go: the function of the
default headers sets some in a new map, a request begins with the map that this function gives and
sets others in it, and the map is sent. A name or value that no header can have stops the code.

* `HeaderMap`: a map that takes names in any case and replaces on insertion.
* `Code.sent`: the maps that the code in a text sends, one for each request.
* `Code.step_insertLine`, `Code.step_of_isApart`: lines that set a header, and lines that have nothing
  to do with headers.
-/

namespace HttpSuite

/-- A map of headers, by their names in any case. -/
structure HeaderMap where
  entries : List Field := []
  deriving DecidableEq, Repr

namespace HeaderMap

/-- Sets a header. One of that name is replaced. -/
def insert (m : HeaderMap) (f : Field) : HeaderMap :=
  ⟨m.entries.filter (fun g => g.name.toLower ≠ f.name.toLower) ++ [f]⟩

/-- The value of the header of that name. -/
def get? (m : HeaderMap) (name : String) : Option String :=
  (m.entries.find? fun g => g.name.toLower = name.toLower).map Field.value

/-- Sets a header, if there can be one with that name and that value. -/
def insert? (m : HeaderMap) (f : Field) : Option HeaderMap :=
  if isFieldName f.name && isFieldValue f.value then some (m.insert f) else none

theorem get?_insert (m : HeaderMap) (f : Field) (name : String) :
    (m.insert f).get? name =
      if f.name.toLower = name.toLower then some f.value else m.get? name := by
  unfold get? insert
  rw [List.find?_append]
  by_cases h : f.name.toLower = name.toLower
  · have hnone : (m.entries.filter fun g => g.name.toLower ≠ f.name.toLower).find?
        (fun g => g.name.toLower = name.toLower) = none := by
      simp [h]
    rw [hnone]
    simp [h]
  · have hfilter : (m.entries.filter fun g => g.name.toLower ≠ f.name.toLower).find?
        (fun g => g.name.toLower = name.toLower) =
          m.entries.find? fun g => g.name.toLower = name.toLower := by
      rw [List.find?_filter]
      congr 1
      funext g
      by_cases hg : g.name.toLower = name.toLower <;> simp [hg, Ne.symm h]
    rw [hfilter]
    simp [h]

/-- **Of several settings of a name the last one counts.** -/
theorem get?_foldl_insert (fs : List Field) (m : HeaderMap) (name : String) :
    (fs.foldl insert m).get? name =
      ((fs.filter fun f => f.name.toLower = name.toLower).getLast?.map Field.value).or
        (m.get? name) := by
  induction fs generalizing m with
  | nil => rfl
  | cons f fs ih =>
    rw [List.foldl_cons, ih, get?_insert, List.filter_cons]
    by_cases h : f.name.toLower = name.toLower
    · simp only [h, decide_true, if_true, List.getLast?_cons]
      cases (fs.filter fun f => f.name.toLower = name.toLower).getLast? <;> rfl
    · simp [h]

end HeaderMap

namespace Code

/-! ## Execution -/

/-- Where the code of the default headers begins. -/
def defaultsLine : List Char := spelled "fn default_headers() -> HeaderMap \x7b" rfl

/-- Where the code of a function ends. -/
def endLine : List Char := spelled "\x7d" rfl

/-- Where the headers of a request begin. -/
def loadLine : List Char := spelled "    let mut headers = default_headers();" rfl

/-- Where the headers of a request are sent. -/
def sendLine : List Char := spelled "        .headers(headers)" rfl

/-- What a line that sets a header begins with. -/
def insertFront : List Char := spelled "    headers.insert(header_name(" rfl

/-- What stands between the name and the value of a header that is set. -/
def insertMiddle : List Char := spelled "), header_value(" rfl

/-- What a line that sets a header ends with. -/
def insertEnd : List Char := spelled "));" rfl

/-- The header that a line sets. -/
def readInsert? (l : List Char) : Option Field := do
  let cs ← insertFront.isPrefixOf? l
  let (name, cs) ← readLiteral cs
  let cs ← insertMiddle.isPrefixOf? cs
  let (value, cs) ← readLiteral cs
  if cs = insertEnd then some ⟨String.ofList name, String.ofList value⟩ else none

/-- Code on its way: what the function of the default headers gives, the headers that are being set,
whether they are the default ones, and those that were sent. -/
structure Sender where
  defaults : HeaderMap := {}
  headers : HeaderMap := {}
  inDefaults : Bool := false
  sent : List HeaderMap := []
  deriving DecidableEq, Repr

/-- Executes a line of code. -/
def Sender.step (s : Sender) (l : List Char) : Option Sender :=
  if l = defaultsLine then some { s with headers := {}, inDefaults := true }
  else if l = endLine then
    some (if s.inDefaults then { s with defaults := s.headers, inDefaults := false } else s)
  else if l = loadLine then some { s with headers := s.defaults }
  else if l = sendLine then some { s with sent := s.sent ++ [s.headers] }
  else
    match readInsert? l with
    | some f => (s.headers.insert? f).map fun m => { s with headers := m }
    | none => some s

/-- Executes code, line by line. -/
def execute (s : Sender) (cs : List Char) : Option Sender :=
  (Text.splitOn '\n' cs).foldlM Sender.step s

/-- The headers that the code in a text sends, one map for each request. -/
def sent (text : String) : Option (List HeaderMap) :=
  (execute {} text.toList).map Sender.sent

theorem execute_line {l : List Char} (h : '\n' ∉ l) (s : Sender) (rest : List Char) :
    execute s (l ++ '\n' :: rest) = (s.step l).bind (execute · rest) := by
  unfold execute
  rw [Text.splitOn_append h]
  rfl

/-! ## Single lines -/

/-- The line that sets a header. -/
def insertLine (f : Field) : List Char :=
  withLiterals insertFront [(f.name, insertMiddle), (f.value, insertEnd)]

theorem readInsert?_insertLine (f : Field) : readInsert? (insertLine f) = some f := by
  unfold readInsert? insertLine withLiterals
  simp only [List.flatMap_cons, List.flatMap_nil, List.append_nil, List.append_assoc,
    isPrefixOf?_append, readLiteral_literal, Option.bind_eq_bind, Option.bind_some, if_true,
    String.ofList_toList]

/-- The whole lines that have to do with headers. -/
def controlLines : List (List Char) := [defaultsLine, endLine, loadLine, sendLine]

/-- The texts that the lines begin with that have to do with headers. -/
def headerFronts : List (List Char) := insertFront :: controlLines

/-- What any other line does is set a header. -/
theorem step_of_not_mem {l : List Char} (h : l ∉ controlLines) (s : Sender) :
    s.step l = match readInsert? l with
      | some f => (s.headers.insert? f).map fun m => { s with headers := m }
      | none => some s := by
  simp only [controlLines, List.mem_cons, List.not_mem_nil, or_false, not_or] at h
  obtain ⟨h₁, h₂, h₃, h₄⟩ := h
  unfold Sender.step
  rw [if_neg h₁, if_neg h₂, if_neg h₃, if_neg h₄]

/-- **A line that sets a header** sets it, or stops the code. -/
theorem step_insertLine (f : Field) (s : Sender) :
    s.step (insertLine f) = (s.headers.insert? f).map fun m => { s with headers := m } := by
  have hfront : ∀ q ∈ controlLines, insertFront.isPrefixOf q = false := by decide
  have hcontrol : insertLine f ∉ controlLines := fun hm => append_ne (hfront _ hm) _ rfl
  rw [step_of_not_mem hcontrol, readInsert?_insertLine]

/-- **A line that begins like none of these** has nothing to do with headers. -/
theorem step_of_isApart {front : List Char} (h : isApart headerFronts front = true)
    (rest : List Char) (s : Sender) : s.step (front ++ rest) = some s := by
  have hnone : ∀ q ∈ headerFronts, q.isPrefixOf? (front ++ rest) = none :=
    fun q hq => isPrefixOf?_of_isApart h hq rest
  have hcontrol : front ++ rest ∉ controlLines := fun hm => by
    have hself := hnone _ (List.mem_cons_of_mem _ hm)
    rw [List.isPrefixOf?_eq_some_iff_append_eq.2 (List.append_nil _)] at hself
    cases hself
  have hread : readInsert? (front ++ rest) = none := by
    rw [readInsert?, hnone _ List.mem_cons_self]
    rfl
  rw [step_of_not_mem hcontrol, hread]

/-- A whole line that has nothing to do with headers. -/
def isHeaderless (l : List Char) : Bool := !controlLines.contains l && readInsert? l = none

theorem step_of_isHeaderless {l : List Char} (h : isHeaderless l = true) (s : Sender) :
    s.step l = some s := by
  rw [isHeaderless, Bool.and_eq_true, decide_eq_true_eq, Bool.not_eq_true',
    List.contains_eq_mem, decide_eq_false_iff_not] at h
  rw [step_of_not_mem h.1, h.2]

end Code

end HttpSuite
