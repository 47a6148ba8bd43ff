import AccessorSchema.Command.Failure
import AccessorSchema.Configuration.Document
import AccessorSchema.Product

/-!
# Writing a configuration file

**`Configuration.writeInitial`** writes the default configuration to a directory.
-/

namespace AccessorSchema

namespace Configuration

/-- The text of a new configuration file: the configuration `{}`, with a heading. -/
def initialText : String := "# " ++ Product.name ++ " configuration\n\n" ++ ({} : Configuration).toml

variable {m : Type → Type} [Monad m] [FileSystem m]

/-- Writes `initialText` to a `directory`, over an existing file only by `force`, and tells so. -/
def writeInitial (directory : Path) (force : Bool) : m (Except CommandFailure String) := do
  let p := Path.join directory fileName
  if (← FileSystem.contains p) && !force then return .error .configurationExists
  match ← FileSystem.write p initialText with
  | .error fault => return .error (.configurationNotWritten p fault)
  | .ok () => return .ok ("Created " ++ fileName ++ " configuration file\n")

end Configuration

end AccessorSchema
