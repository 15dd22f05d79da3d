import HttpSuite.Proofs.Code.Account

/-!
# What the code of a plan does

The code of a plan, part by part: the helper functions, the function of the default headers, the
checks, and the functions of the tests with their exchanges. It is what the plan says it does. The
function that removes whitespace is named where it is defined and in checks of bodies that call it,
and nowhere else.

* `Check.does_code`: the statement of a check.
* `Exchange.does_code`, `Plan.Test.does_code`: the code of an exchange and of a test.
* `Plan.does_lines`: the code of a plan.
-/

namespace HttpSuite

namespace Code

/-! ## Functions -/

theorem does_functionEnd : Does functionEnd [.functionEnd] := by
  have hend : Does [line 0 "\x7d"] [.functionEnd] :=
    .bare (content_line _ _) (by decide) rfl (fun _ => rfl) (by decide) (by decide)
  exact hend.append (.fixed (by decide))

theorem does_preamble : Does preamble [] := by
  refine .cons (.comment (by decide) (by decide)) ?_
  refine .cons (.comment (by decide) (by decide)) ?_
  refine .cons (.comment (by decide) (by decide)) ?_
  refine .cons (.fixed (by decide)) (.cons (.fixed (by decide)) ?_)
  refine .cons (.fixed (by decide)) (.cons (.fixed (by decide)) ?_)
  refine .cons (.fixed (by decide)) (.cons (.fixed (by decide)) ?_)
  refine .cons (.fixed (by decide)) (.cons (.fixed (by decide)) ?_)
  exact .cons (.fixed (by decide)) (.fixed (by decide))

/-- The line that a helper function begins with. -/
theorem does_header {cs name : List Char} (hb : isBare cs = true)
    (hr : remark? cs = some (.function (String.ofList name)))
    (hs : ∀ s : Sender, s.step cs = s.act (.function (String.ofList name)))
    (hm : mentionsNormalize cs = true → name = normalizeName) :
    Does [line 0 (String.ofList cs)] [.function (String.ofList name)] := by
  have hcontent : (line 0 (String.ofList cs)).content = cs := by
    simp [content_line, content, indent]
  refine .bare hcontent hb rfl hs hr fun h => ?_
  rw [hm h]
  rfl

/-- A helper function whose lines do nothing. -/
theorem does_helper {cs name : List Char} {body : List Line} (hb : isBare cs = true)
    (hr : remark? cs = some (.function (String.ofList name))) (hh : isHeaderless cs = true)
    (hname : name ≠ spelled "default_headers" rfl)
    (hm : mentionsNormalize cs = true → name = normalizeName) (hbody : Does body []) :
    Does ((line 0 (String.ofList cs) :: body) ++ functionEnd)
      (helperEvents (String.ofList name)) := by
  have hact : ∀ s : Sender, s.step cs = s.act (.function (String.ofList name)) := by
    intro s
    have hne : String.ofList name ≠ "default_headers" := by
      intro he
      rw [spelled_eq, ← he, String.toList_ofList] at hname
      exact hname rfl
    rw [step_of_isHeaderless hh, Sender.act, if_neg hne]
  exact ((does_header hb hr hact hm).append hbody).append does_functionEnd

/-- The line of a timeout, whose number stands between brackets. -/
theorem does_timeout {front : List Char} (hp : front.dropLast ++ ['('] = front)
    (hf : isApart (headerFronts ++ remarkFronts) (indent 2 ++ front) = true)
    (hb : isBare (indent 2 ++ front) = true)
    (hm : normalizeName ∉ names (indent 2 ++ front.dropLast)) (seconds : Nat) :
    Does [line 2 (String.ofList front ++ toString seconds ++ "))")] [] := by
  obtain ⟨hheader, hremark⟩ := isApart_append.1 hf
  have hne : front ≠ [] := by rintro rfl; cases hp
  have hrest : isBare ((toString seconds).toList ++ spelled "))" rfl) = true :=
    isBare_append (isBare_toString seconds) (by decide)
  have hcontent : (line 2 (String.ofList front ++ toString seconds ++ "))")).content =
      (indent 2 ++ front) ++ ((toString seconds).toList ++ spelled "))" rfl) := by
    refine content_of_append ?_ hne
    simp [spelled_eq]
  have hbare := isBare_append hb hrest
  -- the number stands between two characters that end a name, so it cannot complete the name of the
  -- helper
  have hnamed : normalizeName ∉ names ((indent 2 ++ front) ++
      ((toString seconds).toList ++ spelled "))" rfl)) := by
    have hsplit : (indent 2 ++ front) ++ ((toString seconds).toList ++ spelled "))" rfl) =
        (indent 2 ++ front.dropLast) ++ '(' :: ((toString seconds).toList ++ ')' :: [')']) := by
      nth_rewrite 1 [← hp]
      simp [spelled]
    rw [hsplit]
    exact not_mem_names_between (by decide) (by decide) isNameChar_of_mem_toString hm
      (toString_ne_normalizeName seconds) (by decide)
  exact .bareIdle hcontent hbare (step_of_isApart hheader _) (remark?_of_isApart hremark _)
    (mentionsNormalize_of_isBare hbare hnamed)

theorem does_clientFunction (settings : Settings) :
    Does (clientFunction settings) (helperEvents "client") := by
  refine does_helper (by decide) rfl (by decide) (by decide) (by decide) ?_
  refine .cons (.fixed (by decide)) ?_
  refine .cons (does_timeout (by decide) (by decide) (by decide) (by decide) _) ?_
  refine .cons (does_timeout (by decide) (by decide) (by decide) (by decide) _) ?_
  refine .cons (.fixed (by decide)) ?_
  exact .fixedQuoted (spelled ".expect(" rfl) (spelled "failed to build HTTP client" rfl)
    (spelled ")" rfl) (by decide) (by decide) (by decide) fun _ => rfl

/-- The statement that sets a header. -/
theorem does_insertField (f : Field) : Does [insertField f] [.setHeader f] := by
  refine .literals (spelled "headers.insert(header_name(" rfl)
    [(f.name, insertMiddle), (f.value, insertEnd)] [insertMiddle, insertEnd]
    ?_ rfl (by decide) (by decide) (by decide) (fun _ => rfl) (step_insertLine f) ?_
    (.inl (by decide))
  · simp [withLiterals, insertMiddle, insertEnd, spelled_eq]
  · exact remark?_of_isApart (by decide) _

theorem does_defaultsFunction (p : Plan) :
    Does (defaultsFunction p.defaults) p.defaultEvents := by
  have hheader : Does [line 0 "fn default_headers() -> HeaderMap \x7b"]
      [.function "default_headers"] :=
    does_header (by decide) rfl (fun _ => rfl) (by decide)
  have hmap : Does [line 1 "let mut headers = HeaderMap::new();"] [] := .fixed (by decide)
  have hfields : Does (p.defaults.map insertField) (p.defaults.map .setHeader) :=
    .map fun f _ => does_insertField f
  have hresult : Does [line 1 "headers"] [] := .fixed (by decide)
  exact (((hheader.append_right hmap).append hfields).append_right hresult).append
    does_functionEnd

theorem does_headerFunctions : Does headerFunctions
    (helperEvents "header_name" ++ helperEvents "header_value" ++
      helperEvents "response_header") := by
  have hname : Does ([line 0 "fn header_name(name: &str) -> HeaderName \x7b",
      line 1 "HeaderName::from_bytes(name.as_bytes()).expect(\"invalid header name\")"]
        ++ functionEnd) (helperEvents "header_name") := by
    refine does_helper (by decide) rfl (by decide) (by decide) (by decide) ?_
    exact .fixedQuoted (spelled "HeaderName::from_bytes(name.as_bytes()).expect(" rfl)
      (spelled "invalid header name" rfl) (spelled ")" rfl) (by decide) (by decide) (by decide)
      fun _ => rfl
  have hvalue : Does ([line 0 "fn header_value(value: &str) -> HeaderValue \x7b",
      line 1 "HeaderValue::from_str(value).expect(\"invalid header value\")"]
        ++ functionEnd) (helperEvents "header_value") := by
    refine does_helper (by decide) rfl (by decide) (by decide) (by decide) ?_
    exact .fixedQuoted (spelled "HeaderValue::from_str(value).expect(" rfl)
      (spelled "invalid header value" rfl) (spelled ")" rfl) (by decide) (by decide) (by decide)
      fun _ => rfl
  have hresponse : Does ([line 0 "fn response_header(headers: &HeaderMap, name: &str) -> String \x7b",
      line 1 "headers",
      line 2 ".get(name)",
      line 2 ".and_then(|value| value.to_str().ok())",
      line 2 ".unwrap_or_default()",
      line 2 ".to_string()"] ++ functionEnd) (helperEvents "response_header") := by
    refine does_helper (by decide) rfl (by decide) (by decide) (by decide) ?_
    refine .cons (.fixed (by decide)) (.cons (.fixed (by decide)) ?_)
    exact .cons (.fixed (by decide)) (.cons (.fixed (by decide)) (.fixed (by decide)))
  -- the blank line behind each function belongs to `functionEnd`, so the three only have to be
  -- joined
  have hlines := (hname.append hvalue).append hresponse
  rw [← List.append_assoc, ← List.append_assoc] at hlines
  exact hlines

theorem does_normalizeFunction : Does normalizeFunction (helperEvents "normalize_ws") :=
  does_helper (by decide) rfl (by decide) (by decide) (by decide) (.fixed (by decide))

end Code

open Code

/-! ## Checks -/

namespace Check

variable (normalized : Bool) (c : Check)

/-- The report behind a condition, as literals with the code behind them. -/
def reportParts : List (String × List Char) :=
  [("\x7b\x7d", spelled ", " rfl), (c.message, spelled ");" rfl)]

theorem toList_report_eq : c.report.toList = withLiterals (spelled ", " rfl) c.reportParts := by
  rw [toList_report]
  simp only [withLiterals, reportParts, spelled_eq, List.flatMap_cons, List.flatMap_nil,
    List.append_nil, List.append_assoc]

/-- A check of a status or a header, by code that only lines of such checks begin with. -/
theorem does_of_isCheckFront (start front : List Char) (ps : List (String × List Char))
    (parts : List (List Char)) (hc : (c.code normalized).toList = withLiterals front ps)
    (hp : ps.map Prod.snd = parts) (hr : c.remark normalized = .check (c.code normalized))
    (hstart : isCheckFront (indent 1 ++ start) = true) (hpre : start <+: front)
    (hf : isBare (indent 1 ++ front) = true) (hb : parts.all isBare = true)
    (ha : ∀ before, argumentsAround ((indent 1 ++ front).reverse ++ before) ps = c.arguments)
    (hm : normalizeName ∉ names (withQuotes (indent 1 ++ front) parts)) :
    Does [line 1 (c.code normalized)] [.check normalized c] := by
  obtain ⟨rest, rfl⟩ := hpre
  -- an empty front is no front of a check
  have hne : start ++ rest ≠ [] := by
    rintro he
    rw [(List.append_eq_nil_iff.1 he).1] at hstart
    exact absurd hstart (by decide)
  have hline : withLiterals (indent 1 ++ (start ++ rest)) ps =
      (indent 1 ++ start) ++ withLiterals rest ps := by
    rw [← List.append_assoc, withLiterals_append]
  refine .literals (start ++ rest) ps parts hc hp hne hf hb ha ?_ ?_ (.inl hm)
  · rw [hline]
    exact step_of_isCheckFront hstart _
  -- the check that is found is the line without its indentation
  · have hstatement : (indent 1 ++ withLiterals (start ++ rest) ps).drop 4 =
        (c.code normalized).toList := by
      rw [hc]
      rfl
    rw [Event.remark?, hr, hline, remark?_of_isCheckFront hstart, ← hline, withLiterals_append,
      hstatement, String.ofList_toList]

theorem does_status (code : Nat) :
    Does [line 1 ((status code).code normalized)] [.check normalized (status code)] := by
  have hbare : isBare (indent 1 ++ (spelled "assert_eq!(status, " rfl ++
      ((toString code).toList ++ spelled ", " rfl))) = true :=
    isBare_append (by decide) (isBare_append (by decide)
      (isBare_append (isBare_toString code) (by decide)))
  refine does_of_isCheckFront normalized (status code) (spelled "assert_eq!(status, " rfl)
    (spelled "assert_eq!(status, " rfl ++ ((toString code).toList ++ spelled ", " rfl))
    (status code).reportParts [spelled ", " rfl, spelled ");" rfl] ?_ rfl rfl (by decide)
    (List.prefix_append _ _) hbare (by decide) (fun before => ?_) ?_
  · rw [Check.code, condition_status]
    simp only [String.toList_append, List.append_assoc, toList_report_eq, withLiterals, spelled_eq]
  · -- the number is no literal: it is handed on with the format after it
    have hline : (indent 1 ++ (spelled "assert_eq!(status, " rfl ++ ((toString code).toList ++
        spelled ", " rfl))).reverse ++ before = (spelled "assert_eq!(status, " rfl ++
          ((toString code).toList ++ spelled ", " rfl)).reverse ++
            ((indent 1).reverse ++ before) := by
      rw [List.reverse_append, List.append_assoc]
    rw [reportParts, argumentsAround, hline, argumentAfter?_status]
    rfl
  · have hquotes : withQuotes (indent 1 ++ (spelled "assert_eq!(status, " rfl ++
        ((toString code).toList ++ spelled ", " rfl))) [spelled ", " rfl, spelled ");" rfl] =
          (indent 1 ++ spelled "assert_eq!(status," rfl) ++ ' ' :: ((toString code).toList ++
            ',' :: spelled " \"\", \"\");" rfl) := by
      simp [withQuotes, spelled]
    rw [hquotes]
    exact not_mem_names_between (by decide) (by decide) isNameChar_of_mem_toString (by decide)
      (toString_ne_normalizeName code) (by decide)

theorem does_headerEquals (name value : String) :
    Does [line 1 ((headerEquals name value).code normalized)]
      [.check normalized (headerEquals name value)] := by
  refine does_of_isCheckFront normalized (headerEquals name value) (spelled "assert_eq!(r" rfl)
    (spelled "assert_eq!(response_header(&resp_headers, " rfl)
    ((name, spelled "), " rfl) :: (value, spelled ", " rfl) ::
      (headerEquals name value).reportParts)
    [spelled "), " rfl, spelled ", " rfl, spelled ", " rfl, spelled ");" rfl]
    ?_ rfl rfl (by decide) (by decide) (by decide) (by decide) (fun _ => rfl) (by decide)
  rw [Check.code, condition_headerEquals]
  simp only [String.toList_append, List.append_assoc, toList_report_eq, withLiterals,
    List.flatMap_cons, spelled_eq]

theorem does_headerContains (name substring : String) :
    Does [line 1 ((headerContains name substring).code normalized)]
      [.check normalized (headerContains name substring)] := by
  refine does_of_isCheckFront normalized (headerContains name substring)
    (spelled "assert!(r" rfl) (spelled "assert!(response_header(&resp_headers, " rfl)
    ((name, spelled ").contains(" rfl) :: (substring, spelled "), " rfl) ::
      (headerContains name substring).reportParts)
    [spelled ").contains(" rfl, spelled "), " rfl, spelled ", " rfl, spelled ");" rfl]
    ?_ rfl rfl (by decide) (by decide) (by decide) (by decide) (fun _ => rfl) (by decide)
  rw [Check.code, condition_headerContains]
  have hend : spelled "), " rfl = spelled ")" rfl ++ spelled ", " rfl := rfl
  rw [hend]
  simp only [String.toList_append, List.append_assoc, toList_report_eq, withLiterals,
    List.flatMap_cons, spelled_eq]

/-- What the line of a check of the body begins with, without its indentation. -/
def bodyStart : Bool → List Char
  | true => spelled "assert!(normalize_ws(&body).contains(&normalize_ws(" rfl
  | false => spelled "assert!(body.contains(" rfl

/-- What stands between the text and the report in the check of a body. -/
def bodyBrackets : Bool → List Char
  | true => spelled "))" rfl
  | false => spelled ")" rfl

theorem toList_code_bodyContains (text : String) :
    ((bodyContains text).code normalized).toList = withLiterals (bodyStart normalized)
      ((text, bodyBrackets normalized ++ spelled ", " rfl) :: (bodyContains text).reportParts) := by
  rw [Check.code, condition_bodyContains]
  cases normalized
  all_goals
    simp only [Bool.false_eq_true, if_false, if_true, String.toList_append, List.append_assoc,
      toList_report_eq, withLiterals, List.flatMap_cons, bodyStart, bodyBrackets, spelled_eq]

theorem does_bodyContains (text : String) :
    Does [line 1 ((bodyContains text).code normalized)]
      [.check normalized (bodyContains text)] := by
  have hline : withLiterals (indent 1 ++ bodyStart normalized)
      ((text, bodyBrackets normalized ++ spelled ", " rfl) :: (bodyContains text).reportParts) =
        bodyLine normalized text (bodyContains text).message := by
    have hformat : (literal "\x7b\x7d").toList = spelled "\"\x7b\x7d\"" rfl := by decide
    simp only [withLiterals, reportParts, List.flatMap_cons, List.flatMap_nil, hformat]
    cases normalized <;>
      simp [bodyLine, bodyFront, bodyMiddle, checkEnd, bodyStart, bodyBrackets, spelled, indent]
  refine .literals (bodyStart normalized)
    ((text, bodyBrackets normalized ++ spelled ", " rfl) :: (bodyContains text).reportParts)
    [bodyBrackets normalized ++ spelled ", " rfl, spelled ", " rfl, spelled ");" rfl]
    (toList_code_bodyContains normalized text) rfl ?_ ?_ ?_ ?_ ?_ ?_ ?_
  · cases normalized <;> decide
  · cases normalized <;> decide
  · cases normalized <;> decide
  · cases normalized <;> exact fun _ => rfl
  · cases normalized <;> exact step_of_isApart (by decide) _
  · rw [hline, remark?_bodyLine]
    rfl
  -- whether the helper is called is what the event says about it
  · cases normalized with
    | true => exact .inr rfl
    | false => exact .inl (by decide)

/-- **The statement of a check** makes the check. -/
theorem does_code : Does [line 1 (c.code normalized)] [.check normalized c] := by
  cases c with
  | status code => exact does_status normalized code
  | headerEquals name value => exact does_headerEquals normalized name value
  | headerContains name substring => exact does_headerContains normalized name substring
  | bodyContains text => exact does_bodyContains normalized text

end Check

/-! ## Plans -/

namespace Exchange

theorem does_requestLine (m : Method) (url : String) :
    Does [line 2 (".request(Method::" ++ m.name ++ ", " ++ literal url ++ ")")] [] := by
  refine .idleLiterals (spelled ".request(Method::" rfl ++ (m.name.toList ++ spelled ", " rfl))
    [(url, spelled ")" rfl)] [spelled ")" rfl] ?_ rfl ?_ ?_ ?_
  · simp only [withLiterals, spelled_eq, String.toList_append, List.append_assoc,
      List.flatMap_cons, List.flatMap_nil, List.append_nil]
  · cases m <;> decide
  · cases m <;> decide
  · cases m <;> exact fun _ => rfl

theorem does_body (body : Option String) :
    Does (body.map fun body => line 2 (".body(" ++ literal body ++ ")")).toList [] := by
  cases body with
  | none => exact .nil
  | some body =>
    exact .quoted (spelled ".body(" rfl) body (spelled ")" rfl) rfl (by decide) (by decide)
      fun _ => rfl

/-- **The code of an exchange** sets its headers, sends them and makes its checks. -/
theorem does_code (normalized : Bool) (e : Exchange) :
    Does (e.code normalized) (e.events normalized) := by
  have hload : Does [line 1 "let mut headers = default_headers();"] [.loadHeaders] :=
    .bare (content_line _ _) (by decide) rfl (fun _ => rfl) (by decide) (by decide)
  have hsend : Does [line 2 ".headers(headers)"] [.sendHeaders] :=
    .bare (content_line _ _) (by decide) rfl (fun _ => rfl) (by decide) (by decide)
  have hopening : Does [blankLine, line 1 "let mut headers = default_headers();"] [.loadHeaders] :=
    .cons (.fixed (by decide)) hload
  have hfields : Does (e.fields.map insertField) (e.fields.map .setHeader) :=
    .map fun f _ => does_insertField f
  have hrequest : Does [line 1 "let resp = client",
      line 2 (".request(Method::" ++ e.method.name ++ ", " ++ literal e.url ++ ")"),
      line 2 ".headers(headers)"] [.sendHeaders] :=
    .cons (.fixed (by decide)) (.cons (does_requestLine e.method e.url) hsend)
  have hresponse : Does [line 2 ".send()", line 2 ".await",
      line 2 (".expect(" ++ literal (e.method.name ++ " " ++ e.url ++ " failed") ++ ");"),
      line 1 "let status = resp.status().as_u16();",
      line 1 "let resp_headers = resp.headers().clone();",
      line 1 "let body = resp.text().await.expect(\"failed to read response body\");"] [] := by
    refine .cons (.fixed (by decide)) (.cons (.fixed (by decide)) (.cons ?_ ?_))
    · exact .quoted (spelled ".expect(" rfl) _ (spelled ");" rfl) rfl (by decide) (by decide)
        fun _ => rfl
    · refine .cons (.fixed (by decide)) (.cons (.fixed (by decide)) ?_)
      exact .fixedQuoted (spelled "let body = resp.text().await.expect(" rfl)
        (spelled "failed to read response body" rfl) (spelled ");" rfl) (by decide) (by decide)
        (by decide) fun _ => rfl
  have hchecks : Does (e.checks.map fun c => line 1 (c.code normalized))
      (e.checks.map (.check normalized)) := .map fun c _ => c.does_code normalized
  -- the parts stand in the order of the lines, so their events come in that order too
  have hlines := (((hopening.append hfields).append hrequest).append_right (does_body e.body)
    |>.append_right hresponse).append hchecks
  have hevents : e.events normalized = [.loadHeaders] ++ e.fields.map .setHeader ++
      [.sendHeaders] ++ e.checks.map (.check normalized) := by
    simp [events]
  rw [hevents]
  exact hlines

end Exchange

namespace Plan

/-- The first line of the function of a test. -/
theorem Test.does_header {t : Plan.Test} (hn : t.Named) :
    Does [line 0 ("async fn " ++ t.functionName ++ "() \x7b")] [.function t.functionName] := by
  have hname : ∀ c ∈ t.functionName.toList, isNameChar c = true := by
    have hfront : "test_".toList.all isNameChar = true := by decide
    intro c hc
    rw [functionName, String.toList_append, List.mem_append] at hc
    rcases hc with hc | hc
    · exact List.all_eq_true.1 hfront c hc
    · exact hn c hc
  have hrest : isBare (t.functionName.toList ++ '(' :: spelled ") \x7b" rfl) = true :=
    isBare_append (isBare_of_all hname (by decide)) (by decide)
  have hbare : isBare (testFront ++ (t.functionName.toList ++ '(' :: spelled ") \x7b" rfl)) = true :=
    isBare_append (by decide) hrest
  have htext : ("async fn " ++ t.functionName ++ "() \x7b").toList =
      testFront ++ (t.functionName.toList ++ '(' :: spelled ") \x7b" rfl) := by
    simp [testFront, spelled]
  have hcontent : (line 0 ("async fn " ++ t.functionName ++ "() \x7b")).content =
      testFront ++ (t.functionName.toList ++ '(' :: spelled ") \x7b" rfl) :=
    content_of_append htext (by decide)
  -- the name of the function is not that of the helper
  have hnamed : normalizeName ∉ names (testFront ++ (t.functionName.toList ++
      '(' :: spelled ") \x7b" rfl)) := by
    have hne : t.functionName.toList ≠ normalizeName := by
      rw [functionName, String.toList_append]
      exact append_ne (by decide) _
    have hfront : testFront = spelled "async fn" rfl ++ [' '] := rfl
    rw [hfront, List.append_assoc]
    exact not_mem_names_between (by decide) (by decide) hname (by decide) hne (by decide)
  refine .bare hcontent hbare rfl (fun s => ?_) ?_ fun h => ?_
  · rw [t.act_function]
    exact step_of_isApart (by decide) _ s
  · rw [remark?_test hname (by decide), String.ofList_toList]
    rfl
  · rw [mentionsNormalize_of_isBare hbare hnamed] at h
    cases h

/-- **The code of a test** is a function with its exchanges in it. -/
theorem Test.does_code {t : Plan.Test} (hn : t.Named) (normalize : NormalizeBody) :
    Does (t.code normalize) (t.events normalize) := by
  have hattribute : Does [line 0 "#[tokio::test]"] [] := .fixed (by decide)
  have hclient : Does [line 1 "let client = client();"] [] := .fixed (by decide)
  have hexchanges : Does (t.exchanges.flatMap (Exchange.code (normalize.appliesTo t.name)))
      (t.exchanges.flatMap (Exchange.events (normalize.appliesTo t.name))) :=
    .flatMap fun e _ => e.does_code _
  exact (((hattribute.append_left (does_header hn)).append_right hclient).append
    hexchanges).append does_functionEnd

/-- **The code of a plan** does what the plan says. -/
theorem does_lines {p : Plan} (hn : ∀ t ∈ p.tests, t.Named) (settings : Settings) :
    Does (p.lines settings) (p.events settings) := by
  have hnormalize : Does (if p.normalizes settings.normalizeBody then normalizeFunction else [])
      (if p.normalizes settings.normalizeBody then helperEvents "normalize_ws" else []) := by
    split
    · exact does_normalizeFunction
    · exact .nil
  have htests : Does (p.tests.flatMap (Test.code settings.normalizeBody))
      (p.tests.flatMap (Test.events settings.normalizeBody)) :=
    .flatMap fun t ht => Test.does_code (hn t ht) _
  have hfirst := ((does_preamble.append_left (does_clientFunction settings)).append
    (does_defaultsFunction p)).append does_headerFunctions
  exact (hfirst.append hnormalize).append htests

end Plan

end HttpSuite
