/-!
# File systems

What a run may do with files. A write that fails may leave something behind.
-/

namespace HttpSuite

/-- A state of files that are found by path. -/
class FileSystem (φ : Type) where
  /-- The content of a file, if the path leads to one. -/
  read? : φ → String → Option ByteArray
  /-- Creates a file or replaces its content, and says whether it was done. -/
  write : φ → String → ByteArray → Bool × φ
  /-- Moves a file to another path, in the place of a file that is there, and says whether it was
  done. -/
  rename : φ → String → String → Bool × φ
  /-- Removes a file, if the path leads to one. -/
  remove : φ → String → φ

end HttpSuite
