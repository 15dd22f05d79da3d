import HttpSuite.Suite.Parser

/-!
# The grammar of test descriptions

Which lists of tokens are a test description, and which suite they describe, said without a parser.

    File       := Config? Variable* Test* Eof
    Config     := 'config' '{' (BaseUrl | Header)* '}'
    BaseUrl    := 'base_url' '=' STRING ';'
    Header     := 'header' STRING '=' STRING ';'
    Variable   := 'let' IDENT '=' (STRING | NUMBER) ';'
    Test       := 'test' IDENT '{' Statement* '}'
    Statement  := Request Assertion*
    Request    := Method STRING ('{' (Header | BodyDecl | Skipped)* '}')? ';'?
    BodyDecl   := 'body' '=' STRING ';'
    Assertion  := 'expect' (StatusA | HeaderA | BodyA)
    StatusA    := 'status' '=' NUMBER ';'
    HeaderA    := 'header' STRING ('=' STRING | 'contains' STRING) ';'
    BodyA      := 'body' 'contains' STRING ';'

An item of a request block that begins with neither `header` nor `body` is skipped (`Skipped`): a
run of plain tokens up to and including a `;`, or a run and the group in braces that follows it with
an optional `;`. A run that nothing ends is skipped too if it is the last item of its block
(`BlockItems.unended`).

The grammar leaves open whether a `;` after a skipped group belongs to it or is an item of its own;
skipped items are not part of the suite, so the suite is the same.
-/

namespace HttpSuite

open Token (Kind)

/-- The base URL that an item of a configuration sets. -/
def Config.Item.baseUrl? : Config.Item → Option BaseUrl
  | .baseUrl url => some url
  | .header _ => none

/-- The header that an item of a configuration declares. -/
def Config.Item.header? : Config.Item → Option Header
  | .baseUrl _ => none
  | .header h => some h

/-- The header that an item of a request declares. -/
def Request.Item.header? : Request.Item → Option Header
  | .header h => some h
  | _ => none

/-- The body that an item of a request declares. -/
def Request.Item.body? : Request.Item → Option String
  | .body text => some text
  | _ => none

/-- The table of headers that are declared one after another. -/
def Headers.ofList (hs : List Header) : Headers := hs.foldl Headers.insert {}

/-- The table of variables that are declared one after another. -/
def Variables.ofList (vs : List Variable) : Variables :=
  vs.foldl (fun t v => t.insert v.name v.value) {}

namespace Grammar

/-- The kinds of a list of tokens. -/
def kinds (ts : List Token) : List Kind := ts.map Token.kind

@[simp]
theorem kinds_nil : kinds [] = [] := rfl

@[simp]
theorem kinds_cons_eq_cons {t : Token} {ts : List Token} {k : Kind} {ks : List Kind} :
    kinds (t :: ts) = k :: ks ↔ t.kind = k ∧ kinds ts = ks := by
  simp [kinds]

/-- Any number of items, one after another. -/
inductive Many {α : Type} (Item : List Token → α → Prop) : List Token → List α → Prop
  | nil : Many Item [] []
  | cons {ts us : List Token} {a : α} {as : List α} (h : Item ts a) (hs : Many Item us as) :
      Many Item (ts ++ us) (a :: as)

/-- A header; its span is that of its name. -/
inductive HeaderDecl : List Token → Header → Prop
  | intro {kw name eq value semi : Token}
      (h : kinds [kw, name, eq, value, semi] = [.header, .str, .equals, .str, .semicolon]) :
      HeaderDecl [kw, name, eq, value, semi] ⟨name.text, value.text, name.span⟩

/-- An item of the configuration. -/
inductive ConfigItem : List Token → Config.Item → Prop
  | baseUrl {kw eq url semi : Token}
      (h : kinds [kw, eq, url, semi] = [.baseUrl, .equals, .str, .semicolon]) :
      ConfigItem [kw, eq, url, semi] (.baseUrl ⟨url.text, url.span⟩)
  | header {ts : List Token} {hd : Header} (h : HeaderDecl ts hd) : ConfigItem ts (.header hd)

/-- The configuration. Of several base URLs the last one counts. -/
inductive ConfigBlock : List Token → Config → Prop
  | intro {kw left right : Token} {ts : List Token} {items : List Config.Item}
      (h : kinds [kw, left, right] = [.config, .leftBrace, .rightBrace])
      (hi : Many ConfigItem ts items) :
      ConfigBlock (kw :: left :: (ts ++ [right]))
        { baseUrl := (items.filterMap Config.Item.baseUrl?).getLast?
          headers := .ofList (items.filterMap Config.Item.header?) }

/-- The configuration, if there is one. -/
inductive ConfigOption : List Token → Option Config → Prop
  | none : ConfigOption [] none
  | some {ts : List Token} {c : Config} (h : ConfigBlock ts c) : ConfigOption ts (some c)

/-- A variable. -/
inductive VariableDecl : List Token → Variable → Prop
  | intro {kw name eq value semi : Token}
      (h : kinds [kw, name, eq, semi] = [.letVar, .ident, .equals, .semicolon])
      (hv : value.kind = .str ∨ value.kind = .number) :
      VariableDecl [kw, name, eq, value, semi] ⟨name.text, value.text⟩

/-- Tokens among which every brace has its partner. -/
inductive Balanced : List Token → Prop
  | nil : Balanced []
  | token {t : Token} {ts : List Token} (hl : t.kind ≠ .leftBrace) (hr : t.kind ≠ .rightBrace)
      (he : t.kind ≠ .eof) (hs : Balanced ts) : Balanced (t :: ts)
  | group {left right : Token} {inner ts : List Token} (hl : left.kind = .leftBrace)
      (hi : Balanced inner) (hr : right.kind = .rightBrace) (hs : Balanced ts) :
      Balanced (left :: (inner ++ right :: ts))

/-- A run of tokens other than `;`, `{`, `}` and the end of the text. -/
def Plain (ts : List Token) : Prop := ∀ t ∈ ts, t.kind.isPlain = true

/-- A list of tokens whose first one has a kind with the property `P`. -/
def Begins (P : Kind → Prop) (ts : List Token) : Prop := ∃ t rest, ts = t :: rest ∧ P t.kind

/-- What a skipped item begins with: no `header`, no `body` and no closing brace. -/
def Unknown (k : Kind) : Prop := k ≠ .header ∧ k ≠ .body ∧ k ≠ .rightBrace

/-- A `;` that may be left out. -/
inductive SemicolonOption : List Token → Prop
  | none : SemicolonOption []
  | some {semi : Token} (h : semi.kind = .semicolon) : SemicolonOption [semi]

/-- A skipped item that ends by itself. -/
inductive Skipped : List Token → Prop
  | semicolon {run : List Token} {semi : Token} (hp : Plain run) (hs : semi.kind = .semicolon) :
      Skipped (run ++ [semi])
  | group {run inner semi : List Token} {left right : Token} (hp : Plain run)
      (hl : left.kind = .leftBrace) (hi : Balanced inner) (hr : right.kind = .rightBrace)
      (hs : SemicolonOption semi) : Skipped (run ++ left :: (inner ++ right :: semi))

/-- The body of a request. -/
inductive BodyDecl : List Token → String → Prop
  | intro {kw eq value semi : Token}
      (h : kinds [kw, eq, value, semi] = [.body, .equals, .str, .semicolon]) :
      BodyDecl [kw, eq, value, semi] value.text

/-- The items between the braces of a request, without those that are skipped. -/
inductive BlockItems : List Token → List Request.Item → Prop
  | nil : BlockItems [] []
  | header {ts us : List Token} {hd : Header} {items : List Request.Item} (h : HeaderDecl ts hd)
      (hs : BlockItems us items) : BlockItems (ts ++ us) (.header hd :: items)
  | body {ts us : List Token} {text : String} {items : List Request.Item} (h : BodyDecl ts text)
      (hs : BlockItems us items) : BlockItems (ts ++ us) (.body text :: items)
  | skipped {ts us : List Token} {items : List Request.Item} (hb : Begins Unknown ts)
      (h : Skipped ts) (hs : BlockItems us items) : BlockItems (ts ++ us) items
  | unended {ts : List Token} (hb : Begins Unknown ts) (hp : Plain ts) : BlockItems ts []

/-- The block of a request, if there is one. -/
inductive BlockOption : List Token → List Request.Item → Prop
  | none : BlockOption [] []
  | some {left right : Token} {ts : List Token} {items : List Request.Item}
      (hl : left.kind = .leftBrace) (hi : BlockItems ts items) (hr : right.kind = .rightBrace) :
      BlockOption (left :: (ts ++ [right])) items

/-- A request; its span is that of the method. Of several bodies the last one counts. -/
inductive RequestDecl : List Token → Request → Prop
  | intro {m : Method} {kw path : Token} {block semi : List Token} {items : List Request.Item}
      (h : kinds [kw, path] = [.method m, .str]) (hb : BlockOption block items)
      (hs : SemicolonOption semi) :
      RequestDecl (kw :: path :: (block ++ semi))
        { method := m
          path := path.text
          headers := .ofList (items.filterMap Request.Item.header?)
          body := (items.filterMap Request.Item.body?).getLast?
          span := kw.span }

/-- An assertion. The number of a status fits 16 bits, however many zeros it begins with. -/
inductive AssertionDecl : List Token → Assertion → Prop
  | status {kw subject eq number semi : Token}
      (h : kinds [kw, subject, eq, number, semi]
        = [.expect, .status, .equals, .number, .semicolon])
      (hc : decimal number.text.toList ≤ 65535) :
      AssertionDecl [kw, subject, eq, number, semi]
        (.status (decimal number.text.toList) number.span)
  | headerEquals {kw subject name eq value semi : Token}
      (h : kinds [kw, subject, name, eq, value, semi]
        = [.expect, .header, .str, .equals, .str, .semicolon]) :
      AssertionDecl [kw, subject, name, eq, value, semi]
        (.headerEquals name.text value.text name.span)
  | headerContains {kw subject name contains value semi : Token}
      (h : kinds [kw, subject, name, contains, value, semi]
        = [.expect, .header, .str, .contains, .str, .semicolon]) :
      AssertionDecl [kw, subject, name, contains, value, semi]
        (.headerContains name.text value.text name.span)
  | bodyContains {kw subject contains value semi : Token}
      (h : kinds [kw, subject, contains, value, semi]
        = [.expect, .body, .contains, .str, .semicolon]) :
      AssertionDecl [kw, subject, contains, value, semi] (.bodyContains value.text)

/-- A request alone, or with the assertions that follow it. -/
inductive StatementDecl : List Token → Statement → Prop
  | request {ts : List Token} {r : Request} (h : RequestDecl ts r) : StatementDecl ts (.request r)
  | checked {ts us : List Token} {r : Request} {as : List Assertion} (h : RequestDecl ts r)
      (ha : Many AssertionDecl us as) (hne : as ≠ []) : StatementDecl (ts ++ us) (.checked r as)

/-- A test; its span is that of its name. -/
inductive TestDecl : List Token → Test → Prop
  | intro {kw name left right : Token} {ts : List Token} {statements : List Statement}
      (h : kinds [kw, name, left, right] = [.test, .ident, .leftBrace, .rightBrace])
      (hs : Many StatementDecl ts statements) :
      TestDecl (kw :: name :: left :: (ts ++ [right])) ⟨name.text, name.span, statements⟩

/-- **A test description**: the suite that a list of tokens describes. -/
inductive File : List Token → Suite → Prop
  | intro {cs vs ts : List Token} {eof : Token} {config : Option Config} {vars : List Variable}
      {tests : List Test} (hc : ConfigOption cs config) (hv : Many VariableDecl vs vars)
      (ht : Many TestDecl ts tests) (he : eof.kind = .eof) :
      File (cs ++ vs ++ ts ++ [eof]) { config := config, vars := .ofList vars, tests := tests }

end Grammar

end HttpSuite
