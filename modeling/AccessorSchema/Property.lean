import AccessorSchema.Method

/-!
# Bound properties

A **`BoundProperty`** is a property that was read off accessor methods: its value type, the getters
and the setter it is bound to, and the types that declare them.
-/

namespace AccessorSchema

/-- How the value of a property is held: `managed` or `unmanaged`. -/
inductive PropertyState where
  /-- The model layer owns the value. -/
  | managed
  /-- A written implementation provides the value. -/
  | unmanaged
deriving DecidableEq, Repr

/-- A `PropertyState` as reports name it. -/
def PropertyState.text : PropertyState → String
  | .managed => "managed"
  | .unmanaged => "unmanaged"

/-- A property with the accessors it is bound to, getters in `getterBindings` and at most one
setter. -/
structure BoundProperty where
  name : String
  valueType : TypeName
  state : PropertyState
  /-- Every type that declares one of the getters. -/
  declaringTypes : OrderedSet TypeName
  /-- One getter per accessor name, the most specific one first. -/
  getterBindings : List Method
  setterBinding : Option Method
  /-- The value type of an opaque property is not looked into. -/
  isOpaque : Bool
deriving DecidableEq, Repr

namespace BoundProperty

/-- The first of `p.getterBindings`. -/
def primaryGetter? (p : BoundProperty) : Option Method := p.getterBindings.head?

/-- `p` is writable if a setter is bound. -/
def isWritable (p : BoundProperty) : Bool := p.setterBinding.isSome

/-- `p` as seen from the type `current`: by its name alone if `current` and no other type declares
it, and otherwise with the declaring types. -/
def description (p : BoundProperty) (current : TypeName) : String :=
  let named := "property '" ++ p.name ++ "'"
  if p.declaringTypes.toList = [current] then named
  else named ++ " declared by " ++ ", ".intercalate p.declaringTypes.toList

end BoundProperty

end AccessorSchema
