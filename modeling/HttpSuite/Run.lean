import HttpSuite.Code.Suite
import HttpSuite.CommandLine.Stop
import HttpSuite.FileSystem
import HttpSuite.Settings.File
import HttpSuite.Suite.Json
import HttpSuite.Suite.Parser
import HttpSuite.Suite.Validity

/-!
# Runs

One run of the compiler: the source and the settings are read, the source is parsed and checked, and
the generated tests are written. Any problem ends the run before the output is touched. A file is
written beside its destination first and then moved there, so a write that fails leaves no part of it.

* `Host`: what a run does to the world around it.
* `Host.run`: a run with its exit code.
* `World`: a world with a file system and all that was printed, in which runs can be reasoned about.
-/

namespace HttpSuite

/-- What a run tells the user while it works. -/
inductive Notice where
  | progress (text : String)
  | warning (w : Warning)
  | failure (d : Diagnostic)
  deriving DecidableEq, Repr

/-- The lines of a diagnostic: its message after a word for its weight, and its code if it has one.
-/
def Diagnostic.lines (weight : String) (d : Diagnostic) : List String :=
  (weight ++ ": " ++ d.message) :: (d.code.map ("code: " ++ ·)).toList

/-- The lines of a notice. -/
def Notice.lines : Notice → List String
  | progress text => [text]
  | warning w => w.diagnostic.lines "warning"
  | failure d => d.lines "error"

/-- Why a run failed. -/
inductive RunError where
  | unreadableSource (path : String)
  | settings (e : SettingsError)
  | parse (e : ParseError)
  | invalid (e : ValidationError)
  | output (destination : Destination)
  deriving DecidableEq, Repr

/-- A failure as it is shown to the user. -/
def RunError.diagnostic : RunError → Diagnostic
  | unreadableSource path => { message := s!"Failed to read source file `{path}`" }
  | settings e => e.diagnostic
  | parse e => e.diagnostic
  | invalid e => e.diagnostic
  | output destination =>
    { message := s!"Failed to write generated tests to `{destination.describe}`"
      code := some "testlang::output" }

/-- What a run does to the world around it. -/
class Host (m : Type → Type) where
  /-- The content of a file, if it can be read. -/
  read? : String → m (Option ByteArray)
  /-- Writes a file and says whether it was done. -/
  write : String → ByteArray → m Bool
  /-- Moves a file and says whether it was done. -/
  rename : String → String → m Bool
  /-- Removes a file if it is there. -/
  remove : String → m Unit
  /-- Prints the result of a run. -/
  print : String → m Unit
  /-- Tells the user something. -/
  tell : Notice → m Unit

/-- A host for actions that may fail. -/
instance {ε : Type} {m : Type → Type} [Monad m] [Host m] : Host (ExceptT ε m) where
  read? path := ExceptT.lift (Host.read? path)
  write path content := ExceptT.lift (Host.write path content)
  rename source target := ExceptT.lift (Host.rename source target)
  remove path := ExceptT.lift (Host.remove path)
  print text := ExceptT.lift (Host.print text)
  tell n := ExceptT.lift (Host.tell n)

namespace Host

variable {m : Type → Type} [Monad m] [Host m]

/-- The text of a file, if it can be read and is UTF-8. -/
def readText? (path : String) : m (Option String) := do
  return (← read? path).bind String.fromUTF8?

/-- Tells the user something unless only errors are to be reported. -/
def tellUnless (quiet : Bool) (n : Notice) : m Unit := if quiet then pure () else tell n

/-- Replaces a file by way of a temporary one beside it, and says whether it was done. The temporary
file is removed if it was not. -/
def replaceFile (path text : String) : m Bool := do
  let temporary := Path.temporary path
  let done ← if ← write temporary text.toUTF8 then rename temporary path else pure false
  if !done then remove temporary
  return done

/-- Delivers the generated tests. -/
def deliver (d : Destination) (code : String) : ExceptT RunError m Unit := do
  match d with
  | .stdout => print code
  | .file path => if ← replaceFile path code then pure () else throw (.output d)

/-- The settings of a run: those of the file, if one is given, with the tests that the command line
adds. -/
def settings (c : CommandLine) : ExceptT RunError m Settings := do
  match c.config with
  | none => return extended {}
  | some path =>
    match Settings.ofFile path (← readText? path) with
    | .ok s => return extended s
    | .error e => throw (.settings e)
where
  /-- Adds the tests of the command line. -/
  extended (s : Settings) : Settings :=
    { s with normalizeBody := s.normalizeBody.extend c.normalizeBody }

/-- Parses a source text and reports its warnings, also if there is an error. -/
def parse (quiet : Bool) (source : String) : ExceptT RunError m Suite := do
  let parsed := Suite.parse source
  parsed.warnings.forM fun w => tellUnless quiet (.warning w)
  match parsed.result with
  | .ok suite => return suite
  | .error e => throw (.parse e)

/-- Checks a suite, and then generates its tests unless it was only to be checked. -/
def build (c : CommandLine) (settings : Settings) (suite : Suite) : ExceptT RunError m Unit := do
  match suite.validate with
  | .error e => throw (.invalid e)
  | .ok () =>
    let tests := suite.tests.length
    if c.check then
      tellUnless c.quiet (.progress s!"✔ {c.input}: {tests} tests ok")
    else
      let d := c.destination
      deliver d (suite.generate settings c.input)
      tellUnless c.quiet (.progress
        s!"✔ Generated {tests} tests ({suite.vars.size} variables) -> {d.describe}")

/-- Does what the command line asks for. -/
def compile (c : CommandLine) : ExceptT RunError m Unit := do
  match ← readText? c.input with
  | none => throw (.unreadableSource c.input)
  | some source =>
    let settings ← settings c
    tellUnless c.quiet (.progress s!"Compiling {c.input}")
    let suite ← parse c.quiet source
    if c.emitAst then print (suite.toJson.pretty ++ "\n") else build c settings suite

/-- A run with the given arguments, and its exit code: 0 for success, 1 for a failure and 2 for
arguments that cannot be followed. -/
def run (args : List String) : m Nat := do
  match CommandLine.parse args with
  | .error stop =>
    print stop.output
    return stop.exitCode
  | .ok c =>
    match ← (compile c).run with
    | .ok () => return 0
    | .error e =>
      tell (.failure e.diagnostic)
      return 1

end Host

/-- A world in memory: files, what was printed, and what the user was told. -/
structure World (φ : Type) where
  files : φ
  stdout : String := ""
  notices : List Notice := []

instance {φ : Type} [FileSystem φ] : Host (StateM (World φ)) where
  read? path := return FileSystem.read? (← get).files path
  write path content := modifyGet fun w =>
    let (done, files) := FileSystem.write w.files path content
    (done, { w with files := files })
  rename source target := modifyGet fun w =>
    let (done, files) := FileSystem.rename w.files source target
    (done, { w with files := files })
  remove path := modify fun w => { w with files := FileSystem.remove w.files path }
  print text := modify fun w => { w with stdout := w.stdout ++ text }
  tell n := modify fun w => { w with notices := w.notices ++ [n] }

end HttpSuite
