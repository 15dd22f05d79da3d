import HttpSuite.Url.Host

/-!
# Absolute URLs

Whether a text is an absolute URL, read as browsers do: blanks around it and line breaks and tabs
inside it are dropped, a special scheme (`http`, `https`, `ws`, `wss`, `ftp`) needs a host, `file`
may have one, and any other scheme has one only after two slashes.

* `Url.check`: the reason why a text is no absolute URL, if it is none.
-/

namespace HttpSuite.Url

/-- How the rest of a URL is read after its scheme. -/
inductive SchemeKind where
  | special
  | file
  | other
  deriving DecidableEq, Repr

/-- The kind of a scheme, given in lower case. -/
def SchemeKind.of (scheme : String) : SchemeKind :=
  if ["http", "https", "ws", "wss", "ftp"].contains scheme then .special
  else if scheme = "file" then .file
  else .other

/-- A character that may stand in a scheme. -/
def isSchemeChar (c : Char) : Bool := c.isAlphanum || c == '+' || c == '-' || c == '.'

/-- A control character or space, which may surround a URL. -/
def isPadding (c : Char) : Bool := c.toNat ≤ 0x20

/-- A character that is dropped wherever it stands. -/
def isLineBreak (c : Char) : Bool := c == '\t' || c == '\n' || c == '\r'

/-- The text that is read: without padding at the ends and without line breaks. -/
def clean (text : List Char) : List Char :=
  let front := text.dropWhile isPadding
  let both := (front.reverse.dropWhile isPadding).reverse
  both.filter fun c => !isLineBreak c

/-- The scheme in lower case and what follows its colon. -/
def splitScheme (text : List Char) : Option (String × List Char) :=
  match text.dropWhile isSchemeChar with
  | ':' :: rest =>
    let scheme := text.takeWhile isSchemeChar
    if scheme.head?.any Char.isAlpha then some ((String.ofList scheme).toLower, rest) else none
  | _ => none

/-- A slash in either direction. -/
def isSlash (c : Char) : Bool := c == '/' || c == '\\'

/-- Does `c` end the authority of a URL? A backslash does so in special schemes only. -/
def endsAuthority (special : Bool) (c : Char) : Bool :=
  c == '/' || c == '?' || c == '#' || (special && c == '\\')

/-- The user information before the last `@` and what follows it, or no user information. -/
def splitUserinfo (authority : List Char) : Option (List Char × List Char) :=
  if authority.contains '@' then
    let host := (authority.reverse.takeWhile (· != '@')).reverse
    some (authority.take (authority.length - host.length - 1), host)
  else none

/-- The host and what follows it: a colon outside of brackets ends it. -/
def splitHost (bracketed : Bool) : List Char → List Char × List Char
  | [] => ([], [])
  | c :: cs =>
    if c = ':' && !bracketed then ([], c :: cs)
    else
      let (host, rest) := splitHost (if c = '[' then true else if c = ']' then false else bracketed) cs
      (c :: host, rest)

/-- Checks what follows the colon after a host: a number that fits 16 bits, or nothing. In a scheme
without special rules a backslash may end it. -/
def checkNumber (text : List Char) : Except UrlError Unit :=
  let digits := text.takeWhile Char.isDigit
  let value := digits.foldl (fun n c => 10 * n + (c.toNat - '0'.toNat)) 0
  match text.dropWhile Char.isDigit with
  | [] => if value < 65536 then .ok () else .error .invalidPort
  | c :: _ => if value < 65536 && c == '\\' then .ok () else .error .invalidPort

/-- Checks the host of an authority and the number after its colon. `named` says that user
information stands before the host, which must then not be empty. -/
def checkLocation (special named : Bool) (text : List Char) : Except UrlError Unit := do
  let (host, rest) := splitHost false text
  if host.isEmpty && (special || named || rest.head? == some ':') then
    throw .emptyHost
  if special then checkHost host else checkOpaqueHost host
  match rest with
  | ':' :: number => checkNumber number
  | _ => return

/-- Checks what follows the slashes of an authority. -/
def checkAuthority (special : Bool) (text : List Char) : Except UrlError Unit :=
  let authority := text.takeWhile fun c => !endsAuthority special c
  let after := text.dropWhile fun c => !endsAuthority special c
  match splitUserinfo authority with
  | none => checkLocation special false authority
  | some (user, host) =>
    if user.isEmpty && host.isEmpty && !after.isEmpty then .error .emptyHost
    else checkLocation special (!user.isEmpty && user != [':']) host

/-- Is a text the letter of a drive, such as `C:` or `C|`? -/
def isDriveLetter : List Char → Bool
  | [letter, mark] => letter.isAlpha && (mark == ':' || mark == '|')
  | _ => false

/-- Checks what follows `file:`. -/
def checkFile : List Char → Except UrlError Unit
  | a :: b :: rest =>
    let host := rest.takeWhile fun c => !endsAuthority true c
    if isSlash a && isSlash b && !host.isEmpty && !isDriveLetter host then checkHost host
    else .ok ()
  | _ => .ok ()

/-- Checks that a text is an absolute URL. -/
def check (text : String) : Except UrlError Unit :=
  match splitScheme (clean text.toList) with
  | none => .error .noScheme
  | some (scheme, rest) =>
    match SchemeKind.of scheme with
    | .special => checkAuthority true (rest.dropWhile isSlash)
    | .file => checkFile rest
    | .other =>
      match rest with
      | '/' :: '/' :: authority => checkAuthority false authority
      | _ => .ok ()

end HttpSuite.Url
