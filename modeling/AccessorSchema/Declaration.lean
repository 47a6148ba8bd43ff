import AccessorSchema.Method

/-!
# Declarations of types

A **`TypeDeclaration`** is a type as a catalog describes it: its kind, its supertypes and its own
methods, which do not repeat the name of the type.
-/

namespace AccessorSchema

/-- A method as part of the declaration of its type, which `returns` a type and takes
`parameters`. -/
structure MethodDeclaration where
  name : String
  returns : TypeName
  parameters : List TypeName := []
  markers : OrderedSet Marker := ∅
deriving DecidableEq, Repr

/-- The `Method` that the declaration `m` stands for on the type `declaringType`. -/
def MethodDeclaration.onType (m : MethodDeclaration) (declaringType : TypeName) : Method where
  name := m.name
  declaringType := declaringType
  returnType := m.returns
  parameterTypes := m.parameters
  markers := m.markers

/-- A type with its own `methods`; those of its `supertypes` are declared there. -/
structure TypeDeclaration where
  name : TypeName
  kind : TypeKind := .interface
  supertypes : List TypeName := []
  methods : List MethodDeclaration := []
deriving DecidableEq, Repr

namespace TypeDeclaration

/-- The type that `d` declares, without its methods. -/
def descriptor (d : TypeDeclaration) : TypeDescriptor := ⟨d.name, d.kind, d.supertypes⟩

/-- The methods that `d` itself declares, by `onType`. -/
def ownMethods (d : TypeDeclaration) : List Method := d.methods.map (·.onType d.name)

end TypeDeclaration

end AccessorSchema
