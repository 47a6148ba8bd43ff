import AccessorSchema.Diagnostic
import AccessorSchema.TypeSettings

/-!
# Configurations

A **`Configuration`** is what the user can settle: the built-in types, and the severity from which
diagnostics fail a run.
-/

namespace AccessorSchema

/-- What the user can settle: the built-in `types`, and the threshold `failOn`. -/
structure Configuration where
  types : TypeSettings := {}
  failOn : Threshold := .error
deriving DecidableEq, Repr

namespace Configuration

/-- The name of configuration files. -/
def fileName : String := ".modelschema.toml"

/-- What is wrong with the configuration `c`, if anything. -/
def problem? (c : Configuration) : Option String :=
  if c.types.boolean.isEmpty then some "types.boolean must name at least one type"
  else if c.types.void.isEmpty then some "types.void must not be empty"
  else none

end Configuration

end AccessorSchema
