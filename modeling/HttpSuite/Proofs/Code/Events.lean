import HttpSuite.Code.Suite
import HttpSuite.Proofs.Code.Arguments
import HttpSuite.Proofs.Code.HeaderMap
import HttpSuite.Proofs.Code.Remarks

/-!
# What code does

Three things are read from generated code: what it hands on, the headers that it sends, and the
functions and checks that it tells of. All three come from one account of it, in which functions
begin and end, headers are set and sent, and checks are made.

* `Code.Event`: one thing that code does, with what it hands on and what it tells.
* `Code.Sender.act`: what it does to the headers.
* `Plan.events`: what the code of a plan does.
* `Plan.arguments_events`, `Plan.sent_events`, `Plan.remarks_events`: what a plan hands on, sends and
  tells.
-/

namespace HttpSuite

open Code

/-- What the statement of a check tells. -/
def Check.remark (normalized : Bool) (c : Check) : Remark :=
  match c with
  | .bodyContains text => .bodyCheck normalized text c.message
  | c => .check (c.code false)

/-- What the statement of a check hands on. -/
def Check.arguments : Check → List Argument
  | status code => [.status code]
  | headerEquals name _ => [.responseName name]
  | headerContains name _ => [.responseName name]
  | bodyContains _ => []

/-- What the statement that sets a header hands on. -/
def Field.arguments (f : Field) : List Argument := [.fieldName f.name, .fieldValue f.value]

namespace Code

/-- One thing that code does: a function begins or ends, the headers of a request are loaded, one is
set, they are sent, or a response is checked, with whitespace removed from the body or not. -/
inductive Event where
  | function (name : String)
  | functionEnd
  | loadHeaders
  | setHeader (f : Field)
  | sendHeaders
  | check (normalized : Bool) (c : Check)
  deriving DecidableEq, Repr

/-- What is handed on. -/
def Event.arguments : Event → List Argument
  | setHeader f => f.arguments
  | check _ c => c.arguments
  | _ => []

/-- What is told. -/
def Event.remark? : Event → Option Remark
  | function name => some (.function name)
  | check normalized c => some (c.remark normalized)
  | _ => none

/-- What is done to the headers. Those that are set in the function of the default headers are what
this function gives. -/
def Sender.act (s : Sender) : Event → Option Sender
  | .function name =>
    some (if name = "default_headers" then { s with headers := {}, inDefaults := true } else s)
  | .functionEnd =>
    some (if s.inDefaults then { s with defaults := s.headers, inDefaults := false } else s)
  | .loadHeaders => some { s with headers := s.defaults }
  | .setHeader f => (s.headers.insert? f).map fun m => { s with headers := m }
  | .sendHeaders => some { s with sent := s.sent ++ [s.headers] }
  | .check _ _ => some s

/-- The line of a check does nothing to headers. -/
theorem step_of_isCheckFront {front : List Char} (h : isCheckFront front = true)
    (rest : List Char) (s : Sender) : s.step (front ++ rest) = some s := by
  rw [isCheckFront, Bool.and_eq_true, List.isPrefixOf_iff_prefix] at h
  obtain ⟨cs, rfl⟩ := h.1
  rw [List.append_assoc]
  exact step_of_isApart (by decide) (cs ++ rest) s

/-- A function in which nothing is done to headers, and no response is checked. -/
def helperEvents (name : String) : List Event := [.function name, .functionEnd]

end Code

/-! ### Accounts -/

/-- What the code of an exchange does. -/
def Exchange.events (normalized : Bool) (e : Exchange) : List Event :=
  .loadHeaders :: (e.fields.map .setHeader ++ (.sendHeaders :: e.checks.map (.check normalized)))

/-- What the function of a test does. -/
def Plan.Test.events (normalize : NormalizeBody) (t : Plan.Test) : List Event :=
  .function t.functionName ::
    (t.exchanges.flatMap (Exchange.events (normalize.appliesTo t.name)) ++ [.functionEnd])

/-- What the function of the default headers does. -/
def Plan.defaultEvents (p : Plan) : List Event :=
  .function "default_headers" :: (p.defaults.map .setHeader ++ [.functionEnd])

/-- **What the code of a plan does.** -/
def Plan.events (settings : Settings) (p : Plan) : List Event :=
  helperEvents "client" ++ p.defaultEvents ++
    (helperEvents "header_name" ++ helperEvents "header_value" ++ helperEvents "response_header") ++
    (if p.normalizes settings.normalizeBody then helperEvents "normalize_ws" else []) ++
    p.tests.flatMap (Plan.Test.events settings.normalizeBody)

/-! ### What is handed on -/

section

variable (normalized : Bool) (normalize : NormalizeBody) (settings : Settings)

/-- What the code of an exchange hands on. -/
def Exchange.arguments (e : Exchange) : List Argument :=
  e.fields.flatMap Field.arguments ++ e.checks.flatMap Check.arguments

/-- What the function of a test hands on. -/
def Plan.Test.arguments (t : Plan.Test) : List Argument := t.exchanges.flatMap Exchange.arguments

/-- What the code of a plan hands on. -/
def Plan.arguments (p : Plan) : List Argument :=
  p.defaults.flatMap Field.arguments ++ p.tests.flatMap Test.arguments

theorem Exchange.arguments_events (e : Exchange) :
    (e.events normalized).flatMap Event.arguments = e.arguments := by
  simp [events, arguments, Event.arguments, List.flatMap_map]

theorem Plan.Test.arguments_events (t : Plan.Test) :
    (t.events normalize).flatMap Event.arguments = t.arguments := by
  simp [events, arguments, Event.arguments, List.flatMap_assoc, Exchange.arguments_events]

theorem Plan.arguments_events (p : Plan) :
    (p.events settings).flatMap Event.arguments = p.arguments := by
  have hhelper (name : String) : (helperEvents name).flatMap Event.arguments = [] := rfl
  have hnormalize : (if p.normalizes settings.normalizeBody then helperEvents "normalize_ws"
      else []).flatMap Event.arguments = [] := by
    split <;> rfl
  have hdefaults : p.defaultEvents.flatMap Event.arguments =
      p.defaults.flatMap Field.arguments := by
    simp [defaultEvents, Event.arguments, List.flatMap_map]
  simp only [events, List.flatMap_append, hhelper, hnormalize, hdefaults, List.nil_append,
    List.append_nil, List.flatMap_assoc, Test.arguments_events, arguments]

/-! ### What is told -/

/-- What the code of a test tells. -/
def Plan.Test.remarks (normalize : NormalizeBody) (t : Plan.Test) : List Remark :=
  .function t.functionName ::
    (t.exchanges.flatMap Exchange.checks).map (Check.remark (normalize.appliesTo t.name))

/-- The functions that every file has. -/
def Plan.helpers : List Remark :=
  [.function "client", .function "default_headers", .function "header_name",
    .function "header_value", .function "response_header"]

theorem Code.filterMap_remark?_setHeader (fs : List Field) :
    (fs.map Event.setHeader).filterMap Event.remark? = [] := by
  simp [List.filterMap_map, Event.remark?]

theorem Exchange.remarks_events (e : Exchange) :
    (e.events normalized).filterMap Event.remark? = e.checks.map (Check.remark normalized) := by
  have hcheck : Event.remark? ∘ Event.check normalized = some ∘ Check.remark normalized := rfl
  rw [events, List.filterMap_cons_none rfl, List.filterMap_append, filterMap_remark?_setHeader,
    List.nil_append, List.filterMap_cons_none rfl, List.filterMap_map, hcheck,
    List.filterMap_eq_map]

theorem Plan.Test.remarks_events (t : Plan.Test) :
    (t.events normalize).filterMap Event.remark? = t.remarks normalize := by
  simp [events, remarks, Event.remark?, List.filterMap_flatMap, Exchange.remarks_events,
    List.map_flatMap, List.filterMap_cons]

theorem Plan.remarks_events (p : Plan) :
    (p.events settings).filterMap Event.remark? = helpers ++
      (if p.normalizes settings.normalizeBody then [.function "normalize_ws"] else []) ++
        p.tests.flatMap (Test.remarks settings.normalizeBody) := by
  have hhelper (name : String) :
      (helperEvents name).filterMap Event.remark? = [.function name] := rfl
  have hdefaults : p.defaultEvents.filterMap Event.remark? = [.function "default_headers"] := by
    simp [defaultEvents, Event.remark?]
  have hnormalize : (if p.normalizes settings.normalizeBody then helperEvents "normalize_ws"
      else []).filterMap Event.remark? =
        if p.normalizes settings.normalizeBody then [.function "normalize_ws"] else [] := by
    split <;> rfl
  simp only [events, List.filterMap_append, hhelper, hdefaults, hnormalize, List.filterMap_flatMap,
    Test.remarks_events]
  rfl

end

/-! ### What is sent -/

/-- Headers that there can be. -/
def Field.Valid (f : Field) : Prop := isFieldName f.name = true ∧ isFieldValue f.value = true

/-- Setting headers that there can be. -/
theorem Code.foldlM_setHeader {fs : List Field} (h : ∀ f ∈ fs, f.Valid) (s : Sender) :
    (fs.map Event.setHeader).foldlM Sender.act s =
      some { s with headers := fs.foldl HeaderMap.insert s.headers } := by
  induction fs generalizing s with
  | nil => rfl
  | cons f fs ih =>
    obtain ⟨hf, hfs⟩ := List.forall_mem_cons.1 h
    have hact : s.act (.setHeader f) = some { s with headers := s.headers.insert f } := by
      simp [Sender.act, HeaderMap.insert?, hf.1, hf.2]
    rw [List.map_cons, List.foldlM_cons, hact, Option.bind_eq_bind, Option.bind_some, ih hfs]
    rfl

/-- Where the default headers are known, and not in their function, the maps `ms` are sent. The
headers that are set last are left over. -/
def Code.Sends (defaults : HeaderMap) (es : List Event) (ms : List HeaderMap) : Prop :=
  ∀ s : Sender, s.defaults = defaults → s.inDefaults = false →
    ∃ m, es.foldlM Sender.act s = some { s with headers := m, sent := s.sent ++ ms }

theorem Code.Sends.flatMap {α : Type} {defaults : HeaderMap} {events : α → List Event}
    {maps : α → List HeaderMap} {xs : List α} (h : ∀ x ∈ xs, Sends defaults (events x) (maps x)) :
    Sends defaults (xs.flatMap events) (xs.flatMap maps) := by
  intro s hd hs
  induction xs generalizing s with
  | nil => exact ⟨s.headers, by simp⟩
  | cons x xs ih =>
    obtain ⟨hx, hxs⟩ := List.forall_mem_cons.1 h
    obtain ⟨m₁, h₁⟩ := hx s hd hs
    obtain ⟨m₂, h₂⟩ := ih hxs { s with headers := m₁, sent := s.sent ++ maps x } hd hs
    refine ⟨m₂, ?_⟩
    rw [List.flatMap_cons, List.foldlM_append, h₁, Option.bind_eq_bind, Option.bind_some, h₂,
      List.flatMap_cons, List.append_assoc]

/-- The headers that a request is sent with. -/
def Exchange.headers (defaults : HeaderMap) (e : Exchange) : HeaderMap :=
  e.fields.foldl HeaderMap.insert defaults

/-- **An exchange** sends the default headers with those of the request over them. -/
theorem Exchange.sends_events {e : Exchange} (normalized : Bool) (h : ∀ f ∈ e.fields, f.Valid)
    (defaults : HeaderMap) : Sends defaults (e.events normalized) [e.headers defaults] := by
  have hchecks : ∀ s : Sender, (e.checks.map (Event.check normalized)).foldlM Sender.act s =
      some s := by
    intro s
    induction e.checks with
    | nil => rfl
    | cons c cs ih => exact ih
  rintro s rfl -
  refine ⟨e.headers s.defaults, ?_⟩
  rw [events, List.foldlM_cons]
  simp only [Sender.act, Option.bind_eq_bind, Option.bind_some, List.foldlM_append,
    foldlM_setHeader h, List.foldlM_cons, hchecks]
  rfl

/-- The function of a test is not that of the default headers: its name begins with another
letter. -/
theorem Plan.Test.act_function (t : Plan.Test) (s : Sender) :
    s.act (.function t.functionName) = some s := by
  have hname : t.functionName ≠ "default_headers" := by
    intro he
    have hfirst := congrArg (fun name => name.toList.head?) he
    simp [functionName] at hfirst
  rw [Sender.act, if_neg hname]

/-- **A test** sends one map for each exchange. -/
theorem Plan.Test.sends_events {t : Plan.Test} (normalize : NormalizeBody)
    (h : ∀ e ∈ t.exchanges, ∀ f ∈ e.fields, f.Valid) (defaults : HeaderMap) :
    Sends defaults (t.events normalize) (t.exchanges.map (Exchange.headers defaults)) := by
  have hexchanges : Sends defaults
      (t.exchanges.flatMap (Exchange.events (normalize.appliesTo t.name)))
      (t.exchanges.map (Exchange.headers defaults)) := by
    rw [List.map_eq_flatMap]
    exact .flatMap fun e he => Exchange.sends_events _ (h e he) defaults
  intro s hd hs
  obtain ⟨m, hm⟩ := hexchanges s hd hs
  refine ⟨m, ?_⟩
  rw [events, List.foldlM_cons, act_function, Option.bind_eq_bind, Option.bind_some,
    List.foldlM_append, hm]
  simp [Sender.act, hs]

/-- The headers that a plan sends with every request. -/
def Plan.defaultMap (p : Plan) : HeaderMap := p.defaults.foldl HeaderMap.insert {}

/-- The function of the default headers gives what it sets in a new map. -/
theorem Plan.foldlM_defaultEvents {p : Plan} (h : ∀ f ∈ p.defaults, f.Valid) (s : Sender) :
    p.defaultEvents.foldlM Sender.act s = some { s with
      defaults := p.defaultMap, headers := p.defaultMap, inDefaults := false } := by
  rw [defaultEvents, List.foldlM_cons]
  simp only [Sender.act, if_true, Option.bind_eq_bind, Option.bind_some, List.foldlM_append,
    foldlM_setHeader h, List.foldlM_cons, List.foldlM_nil]
  rfl

/-- Any other function of the file does nothing to headers. -/
theorem Code.foldlM_helperEvents {name : String} (h : name ≠ "default_headers") {s : Sender}
    (hs : s.inDefaults = false) : (helperEvents name).foldlM Sender.act s = some s := by
  simp [helperEvents, Sender.act, h, hs]

/-- **The code of a plan** sends one map for each exchange, in order. -/
theorem Plan.sent_events {p : Plan} (hd : ∀ f ∈ p.defaults, f.Valid)
    (ht : ∀ t ∈ p.tests, ∀ e ∈ t.exchanges, ∀ f ∈ e.fields, f.Valid) (settings : Settings) :
    ((p.events settings).foldlM Sender.act {}).map Sender.sent =
      some ((p.tests.flatMap Test.exchanges).map (Exchange.headers p.defaultMap)) := by
  -- the functions before the tests leave a sender that knows the default headers
  let start : Sender := { defaults := p.defaultMap, headers := p.defaultMap }
  have hnormalize : (if p.normalizes settings.normalizeBody then helperEvents "normalize_ws"
      else []).foldlM Sender.act start = some start := by
    split
    · exact foldlM_helperEvents (by decide) rfl
    · rfl
  have htests : Sends p.defaultMap (p.tests.flatMap (Test.events settings.normalizeBody))
      ((p.tests.flatMap Test.exchanges).map (Exchange.headers p.defaultMap)) := by
    rw [List.map_flatMap]
    exact .flatMap fun t hm => t.sends_events _ (ht t hm) _
  obtain ⟨m, hm⟩ := htests start rfl rfl
  simp only [events, List.foldlM_append, foldlM_defaultEvents hd, Option.bind_eq_bind,
    foldlM_helperEvents (show "client" ≠ "default_headers" by decide),
    foldlM_helperEvents (show "header_name" ≠ "default_headers" by decide),
    foldlM_helperEvents (show "header_value" ≠ "default_headers" by decide),
    foldlM_helperEvents (show "response_header" ≠ "default_headers" by decide), Option.bind_some]
  rw [hnormalize, Option.bind_some, hm]
  rfl

end HttpSuite
