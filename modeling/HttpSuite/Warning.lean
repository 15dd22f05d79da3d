import HttpSuite.Token

/-!
# Warnings

Problems that do not stop a compilation: characters and block items that are passed over, and
bodies that are declared but not sent.
-/

namespace HttpSuite

/-- What a warning is about. -/
inductive Warning.Cause where
  /-- A `$` that no name follows. -/
  | bareDollar
  /-- A character that no token starts with. -/
  | unknownChar (c : Char)
  /-- An item of a request block that is neither a header nor a body, by its first token. -/
  | skippedItem (kind : Token.Kind) (text : String)
  /-- A body in a request whose method sends none. -/
  | unsentBody (method : Method)
  deriving DecidableEq, Repr

/-- A warning on the bytes from `pos` to `stop`. -/
structure Warning where
  cause : Warning.Cause
  pos : Position
  stop : Nat
  deriving DecidableEq, Repr

namespace Warning

/-- The bytes a warning is about. -/
def span (w : Warning) : Span := ⟨w.pos.offset, w.stop⟩

/-- The words of a warning. -/
def message (w : Warning) : String :=
  match w.cause with
  | .bareDollar => s!"`$` without a variable name at {w.pos.words}"
  | .unknownChar c => s!"unknown character `{c}` at {w.pos.words}"
  | .skippedItem kind text =>
    s!"skipping unrecognized {kind.describe} (`{text}`) in request block at {w.pos.words}"
  | .unsentBody method => s!"body at {w.pos.words} is not sent with a {method.name} request"

/-- A warning as it is shown to the user. -/
def diagnostic (w : Warning) : Diagnostic where
  message := w.message
  labels := [⟨"ignored", w.span⟩]

end Warning

end HttpSuite
