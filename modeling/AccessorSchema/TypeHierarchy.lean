import AccessorSchema.Collection.FiniteGraph
import AccessorSchema.Method

/-!
# The subtype relation

A **`TypeHierarchy`** is the list of what has been declared: a type with direct supertypes. A type
may be declared again, which adds supertypes, and the declarations may be cyclic.

* **`directSupertypes`** — the supertypes a type was declared with, in the order of declaration;
* **`isSubtype`** — reachability by direct supertypes, a type being a subtype of itself;
* **`isProperSubtype`** — a subtype other than the type itself.
-/

namespace AccessorSchema

/-- `TypeHierarchy`: declarations of types with direct supertypes, the earliest first. -/
structure TypeHierarchy where
  declarations : List (TypeName × List TypeName) := []
deriving Repr

namespace TypeHierarchy

/-- Adds the direct supertypes `supers` to those of `sub`. -/
def declare (h : TypeHierarchy) (sub : TypeName) (supers : List TypeName) : TypeHierarchy :=
  ⟨h.declarations ++ [(sub, supers)]⟩

/-- The hierarchy of a list of declarations, by `declare` for one after another. -/
def ofDeclarations (l : List (TypeName × List TypeName)) : TypeHierarchy :=
  l.foldl (fun h d => h.declare d.1 d.2) {}

/-- The supertypes that `name` has been declared with, in order. -/
def directSupertypes (h : TypeHierarchy) (name : TypeName) : List TypeName :=
  (h.declarations.filter (·.1 = name)).flatMap (·.2)

/-- A type that was never declared in `h` has no direct supertype. -/
theorem directSupertypes_eq_nil {h : TypeHierarchy} {name : TypeName}
    (hn : name ∉ h.declarations.map (·.1)) : h.directSupertypes name = [] := by
  have : h.declarations.filter (·.1 = name) = [] := by
    refine List.filter_eq_nil_iff.2 fun d hd => ?_
    simp only [decide_eq_true_eq]
    rintro rfl
    exact hn (List.mem_map_of_mem hd)
  simp [directSupertypes, this]

/-- The graph of `directSupertypes`. -/
def graph (h : TypeHierarchy) : FiniteGraph TypeName where
  next := h.directSupertypes
  sources := h.declarations.map (·.1)
  next_eq_nil _ := directSupertypes_eq_nil

/-- Whether `super` is reached from `sub` by zero or more steps to a direct supertype. -/
def isSubtype (h : TypeHierarchy) (sub super : TypeName) : Bool :=
  decide (super ∈ h.graph.visit sub)

/-- Whether `sub` is a subtype of another type `super`. -/
def isProperSubtype (h : TypeHierarchy) (sub super : TypeName) : Bool :=
  decide (sub ≠ super) && h.isSubtype sub super

end TypeHierarchy

end AccessorSchema
