import AccessorSchema.Document.Tagged
import AccessorSchema.Property.Codec
import AccessorSchema.Schema

/-!
# Schemas in documents

The codecs of aspects, struct schemas and schemas. A schema names its variant by the member
`schema`, which is written first.
-/

namespace AccessorSchema

/-- `SchemaAspect`, without properties by default. -/
def SchemaAspect.codec : Codec SchemaAspect :=
  .record "struct SchemaAspect"
    (.cons (.required "name" .string) <|
      .cons (.withDefault "properties" (.list .string) []) .nil)
    (fun (name, properties, _) => { name, properties })
    (fun a => (a.name, a.properties, ()))

/-- `StructSchema`, whose `aspects` are only written if there are any. -/
def StructSchema.codec : Codec StructSchema :=
  .record "struct StructSchema"
    (.cons (.required "type_name" .string) <|
      .cons (.required "properties" (.list BoundProperty.codec)) <|
      .cons
        { Field.withDefault "aspects" (.list SchemaAspect.codec) [] with omitted := List.isEmpty }
        .nil)
    (fun (typeName, properties, aspects, _) => { typeName, properties, aspects })
    (fun s => (s.typeName, s.properties, s.aspects, ()))

namespace ModelSchema

/-- Which sort of `ModelSchema` a tag names. -/
inductive Tag where
  | value
  | struct
  | unknown
deriving DecidableEq, Repr

/-- Each `Tag` by its name. -/
def Tag.variants : List (String × Tag) :=
  [("value", .value), ("struct", .struct), ("unknown", .unknown)]

/-- `nameOnly`: the codec of a schema that has nothing but a type name, without its tag. -/
def nameOnly (title : String) : Codec TypeName :=
  .record title (.cons (.required "type_name" .string) .nil) (·.1) ((·, ()))

/-- Puts `tag` in front of the members of an object. -/
def withTag (tag : String) : Json → Json
  | .object members => .object (("schema", .string tag) :: members)
  | v => v

/-- `ModelSchema`, as an object with a tag among its members. -/
def codec : Codec ModelSchema where
  encode
    | .value n => withTag "value" ((nameOnly "value").encode n)
    | .struct s => withTag "struct" (StructSchema.codec.encode s)
    | .unknown n => withTag "unknown" ((nameOnly "unknown").encode n)
  decode _ n := do
    match ← splitTag "internally tagged enum ModelSchema" "schema" Tag.variants n with
    | (.value, n) =>
      return .value (← (nameOnly "struct variant ModelSchema::Value").decode .buffered n)
    | (.struct, n) => return .struct (← StructSchema.codec.decode .buffered n)
    | (.unknown, n) =>
      return .unknown (← (nameOnly "struct variant ModelSchema::Unknown").decode .buffered n)

end ModelSchema

end AccessorSchema
