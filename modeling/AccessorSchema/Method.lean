import AccessorSchema.Collection.OrderedSet

/-!
# Methods and the types that declare them

A **`Method`** is one declaration: name, declaring type, return type, parameter types and markers.
All five parts count for equality and order, so one signature declared on two types gives two
methods; **`Method.SameSignature`** is the coarser relation that looks at name and parameters only.

Methods are ordered by name, declaring type, return type, parameters and markers, in that order;
the instances of `TransOrd` and `LawfulEqOrd` say that this is a total order in which only equal
methods tie.
-/

namespace AccessorSchema

open Std

/-- The name of a type as it is written in declarations, such as `String` or `com.acme.Person`. -/
abbrev TypeName := String

/-- A remark attached to a method declaration: `unmanaged` or `concrete`. -/
inductive Marker where
  /-- The type of the property is not looked into. -/
  | unmanaged
  /-- The declaration carries an implementation. -/
  | concrete
deriving DecidableEq, Repr

/-- The place of a `Marker` in the order of markers. -/
def Marker.rank : Marker → Nat
  | .unmanaged => 0
  | .concrete => 1

instance : Ord Marker := ⟨compareOn Marker.rank⟩

instance : TransOrd Marker := inferInstanceAs (TransCmp (compareOn Marker.rank))

instance : LawfulEqOrd Marker where
  compare_self := ReflOrd.compare_self (α := Nat)
  eq_of_compare {a b} h := by
    have : a.rank = b.rank := LawfulEqOrd.eq_of_compare h
    cases a <;> cases b <;> simp_all [Marker.rank]

/-- One declaration of a method on the type `declaringType`. -/
structure Method where
  name : String
  declaringType : TypeName
  returnType : TypeName
  parameterTypes : List TypeName := []
  markers : OrderedSet Marker := ∅
deriving DecidableEq, Repr

namespace Method

/-- Methods are compared part by part, the `name` first and the `markers` last. -/
def order : Method → Method → Ordering :=
  compareLex (compareOn name) <| compareLex (compareOn declaringType) <|
    compareLex (compareOn returnType) <| compareLex (compareOn parameterTypes) (compareOn markers)

instance : Ord Method := ⟨order⟩

instance : TransOrd Method :=
  inferInstanceAs <| TransCmp <|
    compareLex (compareOn name) <| compareLex (compareOn declaringType) <|
      compareLex (compareOn returnType) <| compareLex (compareOn parameterTypes) (compareOn markers)

instance : LawfulEqOrd Method where
  compare_self := ReflOrd.compare_self
  eq_of_compare {a b} h := by
    have h : order a b = .eq := h
    simp only [order, compareLex_eq_eq, compareOn, Std.compare_eq_iff_eq] at h
    cases a; cases b
    simpa using h

/-- The number of parameters of `m`. -/
def arity (m : Method) : Nat := m.parameterTypes.length

/-- Whether the declaration `m` carries the marker `k`. -/
def hasMarker (m : Method) (k : Marker) : Bool := m.markers.contains k

/-- Whether the declaration `m` carries an implementation. -/
def isConcrete (m : Method) : Bool := m.hasMarker .concrete

/-- `m` and `n` have one signature if they agree in name and parameters. -/
def SameSignature (m n : Method) : Prop := m.name = n.name ∧ m.parameterTypes = n.parameterTypes

instance (m n : Method) : Decidable (m.SameSignature n) :=
  inferInstanceAs (Decidable (_ ∧ _))

/-- The signature of `m` as it is written: the name and the parameter types, as in `setAge(int)`. -/
def signature (m : Method) : String :=
  m.name ++ "(" ++ ", ".intercalate m.parameterTypes ++ ")"

/-- `m` as messages name it: declaring type and `signature`. -/
def qualifiedSignature (m : Method) : String := m.declaringType ++ "." ++ m.signature

end Method

/-- `TypeKind`: what sort of type a declaration describes. -/
inductive TypeKind where
  | interface
  | abstractClass
  | concreteClass
deriving DecidableEq, Repr

/-- A `TypeKind` as messages name it. -/
def TypeKind.text : TypeKind → String
  | .interface => "interface"
  | .abstractClass => "abstract class"
  | .concreteClass => "class"

/-- A type whose properties are asked for, with its direct `supertypes`. -/
structure TypeDescriptor where
  name : TypeName
  kind : TypeKind := .interface
  supertypes : List TypeName := []
deriving DecidableEq, Repr

/-- The type `target` with every method visible on it, own and inherited, the most derived
declarations first. -/
structure MethodSet where
  target : TypeDescriptor
  methods : List Method
deriving DecidableEq, Repr

end AccessorSchema
