import AccessorSchema.Configuration
import AccessorSchema.Policy.Managed
import AccessorSchema.Store

/-!
# Reports

A **`SchemaReport`** is what extracting one root type has brought to light: the schemas of the root
and of all it refers to, and the diagnostics.

* `SchemaReport.fails` — whether the diagnostics reach a threshold;
* **`TypeSource.report`** — the report on a root, from a store of its own;
* `Configuration.source` — the source a configuration makes of a catalog, with the policy for
  managed structs.
-/

namespace AccessorSchema

/-- The result of extracting the type `root`. -/
structure SchemaReport where
  root : TypeName
  schemas : OrderedMap TypeName ModelSchema := ∅
  diagnostics : List Diagnostic := []

namespace SchemaReport

/-- The schema of `r.root`. -/
def rootSchema? (r : SchemaReport) : Option ModelSchema := r.schemas.get? r.root

/-- Whether some diagnostic of `r` reaches the threshold `t`. -/
def fails (r : SchemaReport) (t : Threshold) : Bool := t.anyExceeded r.diagnostics

end SchemaReport

/-- What `store` holds, as a report on `root`. -/
def SchemaStore.report (store : SchemaStore) (root : TypeName) : SchemaReport :=
  { root, schemas := store.schemas, diagnostics := store.diagnostics }

namespace TypeSource

/-- **The report on `root`**: a `SchemaStore.call` on a new store, and what it leaves there unless it
fails. -/
def report (source : TypeSource) (root : TypeName) : Except Failure SchemaReport :=
  let result := SchemaStore.call source ∅ root
  result.1.map fun _ => result.2.report root

/-- The `report` on each of several `roots`; no root has an influence on another. -/
def reports (source : TypeSource) (roots : List TypeName) : List (Except Failure SchemaReport) :=
  roots.map source.report

end TypeSource

/-- The types of `catalog`, to be extracted as the configuration `c` says: under `Policy.managed`,
with the hierarchy of the catalog. -/
def Configuration.source (c : Configuration) (catalog : Catalog) : TypeSource where
  catalog := catalog
  extractor :=
    { policy := .managed c.types
      hierarchy := catalog.hierarchy
      types := c.types }

end AccessorSchema
