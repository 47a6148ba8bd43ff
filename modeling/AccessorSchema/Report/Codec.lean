import AccessorSchema.Diagnostic.Codec
import AccessorSchema.Report
import AccessorSchema.Schema.Codec

/-!
# Reports as documents

**`SchemaReport.json`** is the document of a report: its root, the schemas by type, and the
diagnostics.
-/

namespace AccessorSchema

namespace SchemaReport

/-- The document of the report `r`, its schemas by type. -/
def json (r : SchemaReport) : Json :=
  .object
    [("root", .string r.root),
     ("schemas", .object (r.schemas.entries.map fun e => (e.1, ModelSchema.codec.encode e.2))),
     ("diagnostics", Diagnostic.codec.list.encode r.diagnostics)]

end SchemaReport

end AccessorSchema
