import UiLang.Files.Error

/-!
# What a command needs from its host

Commands read and write files, print to two streams, and time their stages.
They are written against this interface, so they run alike on a real machine
and on the model of one in `UiLang.Files.Machine`.
-/

namespace UiLang.Files

/-- The operations a command uses. Paths are given as written; errors name them
so. -/
class Host (m : Type → Type) where
  /-- The content of a file. -/
  readFile : String → m (Except FileError String)
  /-- The entries of a directory, sorted by name, each with whether it is a
  directory. -/
  readDir : String → m (Except FileError (List (String × Bool)))
  /-- What a path names. -/
  stat : String → m (Except FileError Kind)
  /-- Creates a directory and any missing parents. -/
  mkdirAll : String → m (Except FileError Unit)
  /-- Creates or replaces a file with this content. -/
  writeFile : String → String → m (Except FileError Unit)
  /-- Removes a file or an empty directory. -/
  remove : String → m (Except FileError Unit)
  /-- Writes to standard output. -/
  out : String → m Unit
  /-- Writes to standard error. -/
  err : String → m Unit
  /-- A clock in milliseconds. -/
  clock : m Nat

end UiLang.Files
