import AccessorSchema.Catalog.Document
import AccessorSchema.Configuration.Document
import AccessorSchema.File.System

/-!
# Catalogs and configurations in files

* **`Catalog.load`** — the catalog in a file; the extension of its name tells the format;
* `Configuration.load` — the configuration in a file;
* **`Configuration.discover`** — the nearest acceptable configuration file at or above a directory.
-/

namespace AccessorSchema

variable {m : Type → Type} [Monad m] [FileSystem m]

/-- The text of the file `p`, or a failure that names this path. -/
def readText (p : Path) : m (Except Failure String) := do
  return (← FileSystem.read p).mapError fun fault => .unreadable p fault.text

/-- The format of the catalog file `p`: TOML if its `extension?` says so, and JSON otherwise. -/
def DocumentFormat.ofPath (p : Path) : DocumentFormat :=
  if p.extension? = some "toml" then .toml else .json

/-- The catalog in the file `p`. -/
def Catalog.load (p : Path) : m (Except Failure Catalog) := do
  return (← readText p) >>= Catalog.ofText (.ofPath p)

namespace Configuration

/-- The configuration in the file `p`. -/
def load (p : Path) : m (Except Failure Configuration) := do
  return (← readText p) >>= ofToml

/-- How many directories the search of `discover` looks into. -/
def searchDepth : Nat := 10

/-- The first configuration that can be loaded from a directory of a list, by `load`. -/
def firstOf : List Path → m (Option Configuration)
  | [] => return none
  | directory :: rest => do
    match ← load (Path.join directory fileName) with
    | .ok c => return some c
    | .error _ => firstOf rest

/-- The configuration for files in the directory `start`: that of the directory or of the nearest
one above it that has an acceptable configuration file, and otherwise the default `{}`. -/
def discover (start : Path) : m Configuration := do
  return (← firstOf (Path.ancestors searchDepth start)).getD {}

end Configuration

end AccessorSchema
