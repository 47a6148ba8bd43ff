import AccessorSchema.Command.Basic
import AccessorSchema.Command.Failure
import AccessorSchema.File.Documents

/-!
# Extracting from a catalog file

**`ExtractOptions.run`** loads catalog and configuration, extracts every root type and writes the
reports. The configuration is loaded before the catalog, and the first root that fails keeps every
report from being written.
-/

namespace AccessorSchema

/-- What an extraction has written, its `text`, and whether it has `passed`: all reports stay below
the threshold. -/
structure ExtractionOutput where
  text : String
  passed : Bool
deriving DecidableEq, Repr

/-- All values of a list of results, or the first `.error`. -/
def allOrFirstFailure {ε α : Type} : List (Except ε α) → Except ε (List α)
  | [] => .ok []
  | .error e :: _ => .error e
  | .ok a :: rest => (allOrFirstFailure rest).map (a :: ·)

/-- The output of the extraction `o` with the configuration `c` and the `catalog` loaded: the
reports on `o.types`, or the first failure among them. -/
def ExtractOptions.output (o : ExtractOptions) (colored : Bool) (c : Configuration)
    (catalog : Catalog) : Except Failure ExtractionOutput := do
  let reports ← allOrFirstFailure ((c.source catalog).reports o.types)
  return {
    text := String.join (reports.map (·.text colored o.format))
    passed := reports.all (!·.fails c.failOn) }

section

variable {m : Type → Type} [Monad m] [FileSystem m]

/-- The configuration of the extraction `o`: the one that `o.config` names, or the nearest to the
catalog. -/
def ExtractOptions.configuration (o : ExtractOptions) : m (Except Failure Configuration) := do
  match o.config with
  | some p => Configuration.load p
  | none => return .ok (← Configuration.discover ((Path.parent? o.catalog).getD "."))

/-- Runs the extraction `o`: its `configuration`, then the catalog, then its `output`. -/
def ExtractOptions.run (o : ExtractOptions) (colored : Bool) :
    m (Except CommandFailure ExtractionOutput) := do
  match ← o.configuration with
  | .error e => return .error (.because e)
  | .ok c =>
    match ← Catalog.load o.catalog with
    | .error e => return .error (.catalogNotLoaded o.catalog e)
    | .ok catalog => return (o.output colored c catalog).mapError .because

end

end AccessorSchema
