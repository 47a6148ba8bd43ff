import AccessorSchema.Method.Codec
import AccessorSchema.Property

/-!
# Properties in documents

The codecs of state management and bound properties.
-/

namespace AccessorSchema

/-- `PropertyState` by name. -/
def PropertyState.codec : Codec PropertyState :=
  .enumeration [("managed", .managed), ("unmanaged", .unmanaged)] PropertyState.text

/-- `BoundProperty`. An object may leave out the setter if there is none. -/
def BoundProperty.codec : Codec BoundProperty :=
  .record "struct BoundProperty"
    (.cons (.required "name" .string) <|
      .cons (.required "value_type" .string) <|
      .cons (.required "state" PropertyState.codec) <|
      .cons (.required "declaring_types" (.set .string)) <|
      .cons (.required "getter_bindings" (.list Method.codec)) <|
      .cons
        { name := "setter_binding"
          codec := .optional Method.codec
          absent := some none
          cutShort := none } <|
      .cons (.required "is_opaque" .bool) .nil)
    (fun (name, valueType, state, declaringTypes, getterBindings, setterBinding, isOpaque, _) =>
      { name, valueType, state, declaringTypes, getterBindings, setterBinding, isOpaque })
    (fun p =>
      (p.name, p.valueType, p.state, p.declaringTypes, p.getterBindings, p.setterBinding,
        p.isOpaque, ()))

end AccessorSchema
