import AccessorSchema.Document.Record
import AccessorSchema.Method

/-!
# Methods and types in documents

The codecs of markers, methods, kinds of types and types.
-/

namespace AccessorSchema

/-- `Marker` by name. -/
def Marker.codec : Codec Marker :=
  .enumeration [("unmanaged", .unmanaged), ("concrete", .concrete)] fun
    | .unmanaged => "unmanaged"
    | .concrete => "concrete"

/-- `Method`, whose `markers` are only written if there are any. -/
def Method.codec : Codec Method :=
  .record "struct MethodDescriptor"
    (.cons (.required "name" .string) <|
      .cons (.required "declaring_type" .string) <|
      .cons (.required "return_type" .string) <|
      .cons (.withDefault "parameter_types" (.list .string) []) <|
      .cons { Field.withDefault "markers" (.set Marker.codec) ∅ with omitted := OrderedSet.isEmpty }
        .nil)
    (fun (name, declaringType, returnType, parameterTypes, markers, _) =>
      { name, declaringType, returnType, parameterTypes, markers })
    (fun m => (m.name, m.declaringType, m.returnType, m.parameterTypes, m.markers, ()))

/-- `TypeKind` by name. -/
def TypeKind.codec : Codec TypeKind :=
  .enumeration
    [("interface", .interface), ("abstract_class", .abstractClass), ("class", .concreteClass)] fun
    | .interface => "interface"
    | .abstractClass => "abstract_class"
    | .concreteClass => "class"

/-- `TypeDescriptor`, of which the name is required. -/
def TypeDescriptor.codec : Codec TypeDescriptor :=
  .record "struct TypeDescriptor"
    (.cons (.required "name" .string) <|
      .cons (.withDefault "kind" TypeKind.codec .interface) <|
      .cons (.withDefault "supertypes" (.list .string) []) .nil)
    (fun (name, kind, supertypes, _) => { name, kind, supertypes })
    (fun t => (t.name, t.kind, t.supertypes, ()))

end AccessorSchema
