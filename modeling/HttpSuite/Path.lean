import HttpSuite.Text.Split

/-!
# Paths

Paths as text, with slashes between their segments. Empty segments and single dots do not count
towards the last segment, which is the file name unless it is a double dot.
-/

namespace HttpSuite.Path

/-- The segments of a path between its slashes. -/
def segments (path : String) : List String :=
  (Text.splitOn '/' path.toList).map String.ofList

/-- A path divided at its file name: the text up to the name, and the name. -/
structure Parts where
  folder : String
  name : String
  deriving DecidableEq, Repr

/-- The parts of a path that has a file name. What follows the name is dropped. -/
def parts? (path : String) : Option Parts :=
  match (segments path).reverse.dropWhile fun s => s = "" ∨ s = "." with
  | [] => none
  | name :: before =>
    if name = ".." then none
    else some ⟨String.join (before.reverse.map (· ++ "/")), name⟩

/-- A file name divided at its last dot: what stands before it, and after it the extension. A name
that begins with its only dot has no extension. -/
def splitExtension (name : String) : String × Option String :=
  let cs := name.toList
  let after := (cs.reverse.takeWhile (· != '.')).reverse
  let before := cs.take (cs.length - after.length - 1)
  if after.length = cs.length ∨ before.isEmpty then (name, none)
  else (String.ofList before, some (String.ofList after))

/-- The extension of the file name, if there is one. -/
def extension? (path : String) : Option String :=
  (parts? path).bind fun p => (splitExtension p.name).2

/-- A path without as many characters at its end as its extension has. -/
def dropExtension (path : String) : String :=
  match extension? path with
  | none => path
  | some extension =>
    String.ofList (path.toList.take (path.toList.length - extension.toList.length))

/-- Gives a path another extension: the old one is dropped from the end, and the name that is left is
cut at its last dot. A path without a file name stays as it is. -/
def withExtension (path extension : String) : String :=
  let short := dropExtension path
  match parts? short with
  | none => short
  | some p => p.folder ++ (splitExtension p.name).1 ++ "." ++ extension

/-- The hidden file beside a path that its new content is written to first. -/
def temporary (path : String) : String :=
  match parts? path with
  | some p => p.folder ++ "." ++ p.name ++ ".tmp"
  | none => (if path = "" ∨ path.toList.getLast? = some '/' then path else path ++ "/")
      ++ ".generated.tmp"

end HttpSuite.Path
