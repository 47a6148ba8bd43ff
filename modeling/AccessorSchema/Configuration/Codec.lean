import AccessorSchema.Configuration
import AccessorSchema.Diagnostic.Codec

/-!
# Configurations in documents

The codecs of built-in types and configurations; every field has a default.
-/

namespace AccessorSchema

/-- `TypeSettings` with a default for each field. -/
def TypeSettings.codec : Codec TypeSettings :=
  let default : TypeSettings := {}
  .record "struct TypeSettings"
    (.cons (.withDefault "boolean" (.set .string) default.boolean) <|
      .cons (.withDefault "void" .string default.void) <|
      .cons (.withDefault "scalars" (.set .string) default.scalars) .nil)
    (fun (boolean, void, scalars, _) => { boolean, void, scalars })
    (fun t => (t.boolean, t.void, t.scalars, ()))

/-- `Threshold`, as the only field of a structure. -/
def Threshold.sectionCodec : Codec Threshold :=
  .record "struct DiagnosticsConfig"
    (.cons (.withDefault "fail_on" Threshold.codec .error) .nil) (·.1) ((·, ()))

/-- `Configuration` with a default for each section. -/
def Configuration.codec : Codec Configuration :=
  .record "struct SchemaConfig"
    (.cons (.withDefault "types" TypeSettings.codec {}) <|
      .cons (.withDefault "diagnostics" Threshold.sectionCodec .error) .nil)
    (fun (types, failOn, _) => { types, failOn })
    (fun c => (c.types, c.failOn, ()))

end AccessorSchema
