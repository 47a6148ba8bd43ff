import AccessorSchema.Document.Codec
import AccessorSchema.Method

/-!
# Failures

Extraction reports diagnostics and does not fail; what can fail is the work around it. A
**`Failure`** says why settings or a catalog could not be loaded or a root type not be resolved.

* **`Failure.message`** — what is said to the user: its `headline` and, if the form of a document is
  at fault, an `explanation?` of that;
* `Failure.isUserFixable` — whether editing an input can help.
-/

namespace AccessorSchema

/-- The two forms of documents, `json` and `toml`. -/
inductive DocumentFormat where
  | json
  | toml
deriving DecidableEq, Repr

/-- Why the work around an extraction failed; `message` says it. -/
inductive Failure where
  /-- A file cannot be read. -/
  | unreadable (path reason : String)
  /-- The settings are not acceptable. If they cannot even be read, the `cause` tells why. -/
  | configuration (problem : String) (cause : Option DecodeError)
  /-- The catalog contradicts itself. -/
  | catalog (problem : String)
  /-- The root type is neither a scalar nor declared. -/
  | unknownType (name : TypeName)
  /-- A catalog's document does not have the form of a catalog. -/
  | document (format : DocumentFormat) (cause : DecodeError)
deriving DecidableEq, Repr

namespace Failure

/-- What is said of a `Failure` in any case. -/
def headline : Failure → String
  | .unreadable path reason => "Failed to read " ++ path ++ ": " ++ reason
  | .configuration problem _ => "Configuration error: " ++ problem
  | .catalog problem => "Catalog error: " ++ problem
  | .unknownType name => "Unknown type '" ++ name ++ "'"
  | .document _ cause => cause.message?.getD "malformed document"

/-- What is wrong with the form of the settings, where there is more to say than the `headline`. -/
def explanation? : Failure → Option String
  | .configuration _ cause => cause.bind DecodeError.message?
  | _ => none

/-- What is said of `f`: its `headline`, and its `explanation?`. -/
def message (f : Failure) : String :=
  f.headline ++ (f.explanation?.map (": " ++ ·)).getD ""

/-- `isUserFixable`: all failures but those of the file system can be mended by editing the
inputs. -/
def isUserFixable : Failure → Bool
  | .unreadable _ _ => false
  | _ => true

end Failure

end AccessorSchema
