import AccessorSchema.Property

/-!
# Schemas

A **`ModelSchema`** says what is known of a type: a scalar has no structure, a struct has properties
and aspects, and of an unknown type there is no declaration.
-/

namespace AccessorSchema

/-- A feature `name` that several `properties` of a struct share. -/
structure SchemaAspect where
  name : String
  properties : List String := []
deriving DecidableEq, Repr

/-- The `properties` of a struct type in the order of their getters, and its `aspects`. -/
structure StructSchema where
  typeName : TypeName
  properties : List BoundProperty
  aspects : List SchemaAspect := []
deriving DecidableEq, Repr

/-- What is known of a type: that it is a `value`, its properties as a `struct`, or nothing. -/
inductive ModelSchema where
  | value (typeName : TypeName)
  | struct (schema : StructSchema)
  | unknown (typeName : TypeName)
deriving DecidableEq, Repr

namespace ModelSchema

/-- `typeName`: the type that a schema describes. -/
def typeName : ModelSchema → TypeName
  | .value n => n
  | .struct s => s.typeName
  | .unknown n => n

/-- The `StructSchema` of a `.struct`. -/
def struct? : ModelSchema → Option StructSchema
  | .struct s => some s
  | _ => none

/-- The first property of `s` with the name `name`, if `s` is a `.struct`. -/
def property? (s : ModelSchema) (name : String) : Option BoundProperty :=
  s.struct?.bind fun t => t.properties.find? (·.name = name)

end ModelSchema

end AccessorSchema
