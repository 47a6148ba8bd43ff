import AccessorSchema.Method

/-!
# The built-in types

**`TypeSettings`** names the types the extraction rules speak of: those that count as boolean, the
return type of setters, and the scalars, which have no properties. A boolean type is also a scalar.
-/

namespace AccessorSchema

/-- The types that the rules for accessors speak of: the `boolean` ones, the `void` one, and the
`scalars`. -/
structure TypeSettings where
  boolean : OrderedSet TypeName := .ofList ["boolean"]
  void : TypeName := "void"
  scalars : OrderedSet TypeName := .ofList
    ["String", "boolean", "Boolean", "char", "Character", "byte", "Byte", "short", "Short", "int",
     "Integer", "long", "Long", "float", "Float", "double", "Double", "BigInteger", "BigDecimal",
     "File"]
deriving DecidableEq, Repr

namespace TypeSettings

/-- Whether the type `name` is boolean. -/
def isBoolean (t : TypeSettings) (name : TypeName) : Bool := t.boolean.contains name

/-- Whether the type `name` is the return type of setters. -/
def isVoid (t : TypeSettings) (name : TypeName) : Bool := t.void = name

/-- Whether the type `name` is a leaf that is never looked into: a scalar, or boolean. -/
def isScalar (t : TypeSettings) (name : TypeName) : Bool :=
  t.scalars.contains name || t.isBoolean name

end TypeSettings

end AccessorSchema
