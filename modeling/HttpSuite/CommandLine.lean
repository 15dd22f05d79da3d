import HttpSuite.Path

/-!
# The command line

What a run is asked to do. Options may be written long or short, with their value attached or as the
next argument; after `--` all arguments are inputs. A value that looks like an option is not taken as
one.

* `CommandLine.parse`: reads the arguments, or says why no compilation is to be run.
-/

namespace HttpSuite

/-- The arguments of a run. -/
structure CommandLine where
  input : String
  output : Option String := none
  config : Option String := none
  normalizeBody : List String := []
  check : Bool := false
  emitAst : Bool := false
  quiet : Bool := false
  deriving DecidableEq, Repr

/-- Where the generated tests go. -/
inductive Destination where
  | stdout
  | file (path : String)
  deriving DecidableEq, Repr

/-- The destination as progress lines name it. -/
def Destination.describe : Destination → String
  | stdout => "<stdout>"
  | file path => path

namespace CommandLine

/-- The destination of a run: the given one, a dash being the standard output, or a file beside the
input. -/
def destination (c : CommandLine) : Destination :=
  match c.output with
  | none => .file (Path.withExtension c.input "rs")
  | some path => if path = "-" then .stdout else .file path

/-- Why no compilation is run. -/
inductive Stop where
  | missingInput
  | unknownArgument
  /-- A value is missing, or a path is empty. -/
  | invalidValue
  /-- An argument is given twice, or one that excludes another is given with it. -/
  | conflict
  /-- A switch is given a value. -/
  | tooManyValues
  | help
  | version
  deriving DecidableEq, Repr

/-- What takes a value. -/
inductive Parameter where
  | input
  | output
  | config
  | normalizeBody
  deriving DecidableEq, Repr

/-- What takes no value. -/
inductive Switch where
  | check
  | emitAst
  | quiet
  | help
  | version
  deriving DecidableEq, Repr

/-- What the name of an option stands for. -/
inductive Meaning where
  | parameter (p : Parameter)
  | switch (s : Switch)
  deriving DecidableEq, Repr

/-- The long names of options. -/
def longNames : List (String × Meaning) :=
  [("output", .parameter .output), ("config", .parameter .config),
   ("normalize-body", .parameter .normalizeBody), ("check", .switch .check),
   ("emit-ast", .switch .emitAst), ("quiet", .switch .quiet), ("help", .switch .help),
   ("version", .switch .version)]

/-- The short names of options. -/
def shortNames : List (Char × Meaning) :=
  [('o', .parameter .output), ('c', .parameter .config), ('q', .switch .quiet),
   ('h', .switch .help), ('V', .switch .version)]

/-- The arguments read so far. -/
structure Scan where
  input : Option String := none
  output : Option String := none
  config : Option String := none
  normalizeBody : List String := []
  check : Bool := false
  emitAst : Bool := false
  quiet : Bool := false
  /-- The last parameter, which the next option or input settles. It may wait for its value. -/
  pending : Option (Parameter × Option String) := none
  /-- Has an input been met? -/
  positional : Bool := false
  /-- Are all further arguments inputs? -/
  literal : Bool := false
  deriving DecidableEq, Repr

namespace Scan

/-- A path that is given once; it must not be empty. -/
def once (old : Option String) (value : String) : Except Stop (Option String) :=
  if old.isSome then .error .conflict
  else if value = "" then .error .invalidValue
  else .ok (some value)

/-- Gives a parameter its value. -/
def record (s : Scan) (p : Parameter) (value : String) : Except Stop Scan := do
  match p with
  | .input => return { s with input := ← once s.input value }
  | .output => return { s with output := ← once s.output value }
  | .config => return { s with config := ← once s.config value }
  | .normalizeBody => return { s with normalizeBody := s.normalizeBody ++ [value] }

/-- Settles the pending parameter. -/
def settle (s : Scan) : Except Stop Scan :=
  match s.pending with
  | none => .ok s
  | some (_, none) => .error .invalidValue
  | some (p, some value) => record { s with pending := none } p value

/-- Turns a switch on. -/
def turnOn (s : Scan) (w : Switch) : Except Stop Scan := do
  let s ← s.settle
  match w with
  | .check => if s.check then throw .conflict else return { s with check := true }
  | .emitAst => if s.emitAst then throw .conflict else return { s with emitAst := true }
  | .quiet => if s.quiet then throw .conflict else return { s with quiet := true }
  | .help => throw .help
  | .version => throw .version

/-- Reads a parameter with a value that is attached to it, or the parameter alone. -/
def startParameter (s : Scan) (p : Parameter) (attached : Option String) : Except Stop Scan := do
  let s ← s.settle
  match attached with
  | some value => s.record p value
  | none => return { s with pending := some (p, none) }

/-- Reads an input. There is one at most. -/
def readInput (s : Scan) (arg : String) : Except Stop Scan := do
  if s.positional then throw .unknownArgument
  let s ← s.settle
  return { s with pending := some (.input, some arg), positional := true }

/-- Reads a long option after its dashes. -/
def readLong (s : Scan) (arg : List Char) : Except Stop Scan :=
  let name := String.ofList (arg.takeWhile (· != '='))
  let value := ((arg.dropWhile (· != '=')).tail?).map String.ofList
  match longNames.lookup name with
  | none => .error .unknownArgument
  | some (.parameter p) => s.startParameter p value
  | some (.switch w) => if value.isSome then .error .tooManyValues else s.turnOn w

/-- Reads short options after their dash. The first one that takes a value takes all that follows it,
after an equals sign if there is one. -/
def readShort (s : Scan) : List Char → Except Stop Scan
  | [] => .ok s
  | c :: cs =>
    match shortNames.lookup c with
    | none => .error .unknownArgument
    | some (.switch w) => (s.turnOn w).bind fun s => readShort s cs
    | some (.parameter p) =>
      match cs with
      | [] => s.startParameter p none
      | '=' :: value => s.startParameter p (some (String.ofList value))
      | value => s.startParameter p (some (String.ofList value))

/-- Reads a word that is no option: the value that a parameter waits for, or else an input. -/
def readWord (s : Scan) (arg : String) : Except Stop Scan :=
  match s.pending with
  | some (p, none) => .ok { s with pending := some (p, some arg) }
  | _ => s.readInput arg

/-- Reads an argument. -/
def read (s : Scan) (arg : String) : Except Stop Scan :=
  if s.literal then s.readInput arg
  else
    match arg.toList with
    | ['-', '-'] => .ok { s with literal := true }
    | '-' :: '-' :: rest => s.readLong rest
    | ['-'] => s.readWord arg
    | '-' :: rest => s.readShort rest
    | _ => s.readWord arg

/-- The command line of all arguments. -/
def finish (s : Scan) : Except Stop CommandLine := do
  let s ← s.settle
  if s.check && s.emitAst then throw .conflict
  match s.input with
  | none => throw .missingInput
  | some input =>
    return { input := input, output := s.output, config := s.config
             normalizeBody := s.normalizeBody, check := s.check, emitAst := s.emitAst
             quiet := s.quiet }

end Scan

/-- Reads the arguments of a run. -/
def parse (args : List String) : Except Stop CommandLine := do
  (← args.foldlM Scan.read {}).finish

end CommandLine

end HttpSuite
