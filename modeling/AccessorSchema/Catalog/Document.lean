import AccessorSchema.Catalog
import AccessorSchema.Declaration.Codec
import AccessorSchema.Document.Json.Reader
import AccessorSchema.Document.Toml.Reader

/-!
# Catalogs from documents

**`Catalog.ofText`** reads a catalog from a JSON or TOML text.
-/

namespace AccessorSchema

/-- Reads the declarations of a catalog file, a `text` in the given `format`. -/
def readDeclarations (format : DocumentFormat) (text : String) :
    Except Failure (List TypeDeclaration) :=
  let declarations :=
    match format with
    | .json => catalogFileCodec.readJson text
    | .toml => catalogFileCodec.readToml text
  declarations.mapError (.document format)

/-- Reads a catalog: `readDeclarations`, and then `ofDeclarations`. -/
def Catalog.ofText (format : DocumentFormat) (text : String) : Except Failure Catalog :=
  readDeclarations format text >>= ofDeclarations

end AccessorSchema
