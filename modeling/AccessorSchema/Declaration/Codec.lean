import AccessorSchema.Declaration
import AccessorSchema.Method.Codec

/-!
# Declarations in documents

The codecs of method and type declarations, and that of a whole catalog file, which is a list of
type declarations under the name `type` or `types`.
-/

namespace AccessorSchema

/-- `MethodDeclaration`, of which the name and the return type are required. -/
def MethodDeclaration.codec : Codec MethodDeclaration :=
  .record "struct MethodDeclaration"
    (.cons (.required "name" .string) <|
      .cons (.required "returns" .string) <|
      .cons (.withDefault "parameters" (.list .string) []) <|
      .cons (.withDefault "markers" (.set Marker.codec) ∅) .nil)
    (fun (name, returns, parameters, markers, _) => { name, returns, parameters, markers })
    (fun m => (m.name, m.returns, m.parameters, m.markers, ()))

/-- `TypeDeclaration`, of which the name is required; methods are also read from the field
`methods`. -/
def TypeDeclaration.codec : Codec TypeDeclaration :=
  .record "struct TypeDeclaration"
    (.cons (.required "name" .string) <|
      .cons (.withDefault "kind" TypeKind.codec .interface) <|
      .cons (.withDefault "supertypes" (.list .string) []) <|
      .cons
        { Field.withDefault "method" (.list MethodDeclaration.codec) [] with
          aliases := ["methods"] }
        .nil)
    (fun (name, kind, supertypes, methods, _) => { name, kind, supertypes, methods })
    (fun d => (d.name, d.kind, d.supertypes, d.methods, ()))

/-- The declarations of a catalog file, from its field `type` or `types`. -/
def catalogFileCodec : Codec (List TypeDeclaration) :=
  .record "struct CatalogFile"
    (.cons
      { Field.withDefault "type" (.list TypeDeclaration.codec) [] with aliases := ["types"] } .nil)
    (·.1) ((·, ()))

end AccessorSchema
