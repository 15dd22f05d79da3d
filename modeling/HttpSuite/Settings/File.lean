import HttpSuite.Diagnostic
import HttpSuite.Settings
import HttpSuite.Toml.Document

/-!
# Settings files

Settings are the table `generator` of a TOML document, or a list of its values in order. What is not
given has its default, and keys that are not known are ignored.
-/

namespace HttpSuite.Settings

open Toml

/-- A timeout: a whole number of seconds that fits 64 bits. -/
def timeout? : Value → Option Nat
  | .integer n => if 0 ≤ n ∧ n.toNat < Nat.pow 2 64 then some n.toNat else none
  | _ => none

/-- A text. -/
def text? : Value → Option String
  | .string s => some s
  | _ => none

/-- All or none of the tests, or their names. -/
def normalizeBody? : Value → Option NormalizeBody
  | .boolean b => some (.all b)
  | .array elements => (elements.mapM text?).map .tests
  | _ => none

/-- The settings after an entry of their table. -/
def readEntry (s : Settings) : String × Value → Option Settings
  | ("connect_timeout_secs", v) => (timeout? v).map fun n => { s with connectTimeout := n }
  | ("request_timeout_secs", v) => (timeout? v).map fun n => { s with requestTimeout := n }
  | ("normalize_body", v) => (normalizeBody? v).map fun n => { s with normalizeBody := n }
  | (_, v) => if v.isReadable then some s else none

/-- The order in which a list gives the settings. -/
def fieldNames : List String := ["connect_timeout_secs", "request_timeout_secs", "normalize_body"]

/-- The settings that a value gives. A date has no settings in it. -/
def ofValue? : Value → Option Settings
  | .table entries => entries.foldlM readEntry {}
  | .array elements => (fieldNames.zip elements).foldlM readEntry {}
  | .dateTime => some {}
  | _ => none

/-- The settings of a document. -/
def ofDocument? (entries : List (String × Value)) : Option Settings :=
  entries.foldlM (fun s (key, v) =>
    if key = "generator" then ofValue? v else if v.isReadable then some s else none) {}

/-- The settings in the text of a file, if it is a valid one. -/
def parse (source : String) : Option Settings := (Toml.parse source).bind ofDocument?

end HttpSuite.Settings

namespace HttpSuite

/-- Why the settings in a file cannot be used. -/
inductive SettingsError where
  /-- The file cannot be read as text. -/
  | unreadable (path : String)
  /-- The text is not TOML, or a setting has a value that it cannot have. -/
  | malformed (path : String)
  deriving DecidableEq, Repr

/-- A settings error as it is shown to the user. -/
def SettingsError.diagnostic : SettingsError → Diagnostic
  | unreadable path =>
    { message := s!"Failed to read settings file `{path}`"
      code := some "testlang::settings::read" }
  | malformed path =>
    { message := s!"Failed to parse settings file `{path}`"
      code := some "testlang::settings::parse" }

/-- The settings of a file with the given text, `none` if it cannot be read. -/
def Settings.ofFile (path : String) (source : Option String) : Except SettingsError Settings :=
  match source with
  | none => .error (.unreadable path)
  | some source =>
    match parse source with
    | some s => .ok s
    | none => .error (.malformed path)

end HttpSuite
