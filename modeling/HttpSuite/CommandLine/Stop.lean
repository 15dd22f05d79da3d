import HttpSuite.CommandLine

/-!
# Runs without a compilation

What is printed when help or the version is asked for, and how a run ends that compiles nothing.
-/

namespace HttpSuite.CommandLine.Stop

/-- The version as it is printed. -/
def versionText : String := "testlang 0.1.0\n"

/-- The lines of the help. -/
def helpLines : List String :=
  ["Compiles `.test` HTTP test descriptions into Rust integration tests",
   "",
   "Usage: testlang [OPTIONS] <INPUT>",
   "",
   "Arguments:",
   "  <INPUT>  The `.test` file to compile",
   "",
   "Options:",
   "  -o, --output <OUTPUT>        Where to write the generated tests, `-` for stdout. "
     ++ "Defaults to the input path with an `.rs` extension",
   "  -c, --config <CONFIG>        TOML settings file for the generator",
   "      --normalize-body <TEST>  Compare response bodies of this test with whitespace removed. "
     ++ "Can be given more than once",
   "      --check                  Stop after validation without writing anything",
   "      --emit-ast               Print the parsed syntax tree as JSON instead of generating code",
   "  -q, --quiet                  Only report errors",
   "  -h, --help                   Print help",
   "  -V, --version                Print version"]

/-- The help as it is printed. -/
def helpText : String := String.join (helpLines.map (· ++ "\n"))

/-- What a run prints instead of compiling. -/
def output : Stop → String
  | help => helpText
  | version => versionText
  | _ => ""

/-- The exit code of a run that compiles nothing. -/
def exitCode : Stop → Nat
  | help | version => 0
  | _ => 2

end HttpSuite.CommandLine.Stop
