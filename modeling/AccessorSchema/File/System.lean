import AccessorSchema.File.Path

/-!
# File systems

**`FileSystem m`** is what commands need of the file system they run on: to read and write texts and
to see whether something is there.
-/

namespace AccessorSchema

/-- Why a file could not be read or written; `text` says it. -/
inductive FileFault where
  | notFound
  | isDirectory
  | notDirectory
  /-- The bytes of the file are not the encoding of a text. -/
  | notText
  | other (reason : String)
deriving DecidableEq, Repr

/-- What is said of a `FileFault`. -/
def FileFault.text : FileFault → String
  | .notFound => "No such file or directory (os error 2)"
  | .isDirectory => "Is a directory (os error 21)"
  | .notDirectory => "Not a directory (os error 20)"
  | .notText => "stream did not contain valid UTF-8"
  | .other reason => reason

/-- A file system with effects in `m`: it can `read`, look and `write`. -/
class FileSystem (m : Type → Type) where
  /-- The text of a file. -/
  read : Path → m (Except FileFault String)
  /-- Whether there is a file or directory. -/
  contains : Path → m Bool
  /-- Writes a text to a file, in place of what was in it. -/
  write : Path → String → m (Except FileFault Unit)

end AccessorSchema
