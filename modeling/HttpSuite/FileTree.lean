import HttpSuite.FileSystem
import HttpSuite.Path
import HttpSuite.Table

/-!
# Trees of files and folders

A file system in memory: files and folders by their place below the root, and a current folder that
relative paths start from. All folders on the way to a file must be there, a file is not found with a
slash after its name, a segment has at most 255 bytes and a path at most 4095.
-/

namespace HttpSuite

/-- What stands at a place of a file tree. -/
inductive FileTree.Node where
  | file (content : ByteArray)
  | folder

/-- A file tree. The root is a folder that is always there. -/
structure FileTree where
  nodes : List (List String × FileTree.Node) := []
  current : List String := []

namespace FileTree

/-- What stands at a place. -/
def node? (t : FileTree) (place : List String) : Option Node :=
  if place = [] then some .folder else (Table.find? Prod.fst place t.nodes).map Prod.snd

/-- Is there a folder at a place? -/
def isFolder (t : FileTree) (place : List String) : Bool :=
  match t.node? place with
  | some .folder => true
  | _ => false

/-- The longest segment, in bytes. -/
def maxSegment : Nat := 255

/-- The place of a file, walking from a folder along the segments of a path. There is none where the
path ends at a folder, or where a folder on the way is missing. -/
def walk (t : FileTree) (here : List String) : List String → Option (List String)
  | [] => none
  | segment :: rest =>
    if segment = "" ∨ segment = "." then walk t here rest
    else if segment = ".." then walk t here.dropLast rest
    else if maxSegment < segment.utf8ByteSize then none
    else if rest = [] then some (here ++ [segment])
    else if t.isFolder (here ++ [segment]) then walk t (here ++ [segment]) rest
    else none

/-- The longest path, in bytes. -/
def maxPath : Nat := 4095

/-- The place that a path to a file leads to. -/
def locate (t : FileTree) (path : String) : Option (List String) :=
  if maxPath < path.utf8ByteSize then none
  else t.walk (if path.toList.head? = some '/' then [] else t.current) (Path.segments path)

/-- Puts a node at a place. -/
def put (t : FileTree) (place : List String) (n : Node) : FileTree :=
  { t with nodes := Table.put Prod.fst (place, n) t.nodes }

/-- Clears a place. -/
def erase (t : FileTree) (place : List String) : FileTree :=
  { t with nodes := t.nodes.filter fun e => e.1 ≠ place }

/-- The content of the file at a place. -/
def content? (t : FileTree) (place : List String) : Option ByteArray :=
  match t.node? place with
  | some (.file content) => some content
  | _ => none

instance : FileSystem FileTree where
  read? t path := (t.locate path).bind t.content?
  write t path content :=
    match t.locate path with
    | none => (false, t)
    | some place => if t.isFolder place then (false, t) else (true, t.put place (.file content))
  rename t source target :=
    match t.locate source, t.locate target with
    | some a, some b =>
      match t.content? a with
      | none => (false, t)
      | some content =>
        if t.isFolder b then (false, t) else (true, (t.erase a).put b (.file content))
    | _, _ => (false, t)
  remove t path :=
    match t.locate path with
    | none => t
    | some place => if (t.content? place).isSome then t.erase place else t

/-- Adds the folders on the way to a place, and one at the place. -/
def makeFolders (t : FileTree) (place : List String) : FileTree :=
  (List.range place.length).foldl (fun t n =>
    let folder := place.take (n + 1)
    if (t.node? folder).isSome then t else t.put folder .folder) t

/-- Adds a file and the folders on the way to it. -/
def makeFile (t : FileTree) (place : List String) (content : ByteArray) : FileTree :=
  (t.makeFolders place.dropLast).put place (.file content)

/-- The files of a tree with their places. -/
def files (t : FileTree) : List (List String × ByteArray) :=
  t.nodes.filterMap fun
    | (place, .file content) => some (place, content)
    | (_, .folder) => none

end FileTree

end HttpSuite
