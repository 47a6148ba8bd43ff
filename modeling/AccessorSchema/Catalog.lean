import AccessorSchema.Collection.Distinct
import AccessorSchema.Collection.OrderedMap
import AccessorSchema.Declaration
import AccessorSchema.Failure
import AccessorSchema.TypeHierarchy

/-!
# Catalogs of types

A **`Catalog`** holds type declarations by name, each name once. It answers the two questions
extraction asks of its surroundings: which methods are visible on a type, and how types are related.

* **`Catalog.insert`** — adds a declaration unless the name is taken;
* **`Catalog.hierarchy`** — the declared supertypes;
* **`Catalog.methodSet?`** — the methods of a type and of its supertypes, nearer types first;
  supertypes without a declaration have no methods.
-/

namespace AccessorSchema

/-- Type declarations by name, `types`. -/
structure Catalog where
  types : OrderedMap TypeName TypeDeclaration
  /-- A declaration stands in `types` under its own name. -/
  name_eq : ∀ name d, types.get? name = some d → d.name = name

namespace Catalog

/-- The catalog `empty` has no declarations. -/
def empty : Catalog := ⟨∅, by simp⟩

instance : EmptyCollection Catalog := ⟨empty⟩
instance : Inhabited Catalog := ⟨empty⟩

/-- The declaration of the type `name`. -/
def get? (c : Catalog) (name : TypeName) : Option TypeDeclaration := c.types.get? name

/-- Whether the type `name` is declared in `c`. -/
def contains (c : Catalog) (name : TypeName) : Bool := c.types.contains name

/-- `names`: the names of the declared types in increasing order. -/
def names (c : Catalog) : List TypeName := c.types.keys

/-- `size`: the number of declared types. -/
def size (c : Catalog) : Nat := c.types.size

/-- Whether no type is declared in `c`. -/
def isEmpty (c : Catalog) : Bool := c.types.isEmpty

/-- What is wrong with declaring the type `name` a second time. -/
def redeclared (name : TypeName) : String := "type '" ++ name ++ "' is declared more than once"

/-- Adds the declaration `d`; if its name is already declared it is refused as `redeclared`. -/
def insert (c : Catalog) (d : TypeDeclaration) : Except Failure Catalog :=
  if c.contains d.name then .error (.catalog (redeclared d.name))
  else
    .ok
      { types := c.types.insert d.name d
        name_eq := by
          intro name d' h
          rw [OrderedMap.get?_insert] at h
          split at h
          · next hn => cases h; exact hn.symm
          · exact c.name_eq name d' h }

/-- The catalog of a list `l` of declarations with different names, by `insert` for one after
another. -/
def ofDeclarations (l : List TypeDeclaration) : Except Failure Catalog := l.foldlM insert ∅

/-- The declared supertypes of `c`, type by type. -/
def hierarchy (c : Catalog) : TypeHierarchy :=
  .ofDeclarations (c.types.values.map fun d => (d.name, d.supertypes))

/-- The methods that the type `name` itself declares; a type without declaration has none. -/
def ownMethods (c : Catalog) (name : TypeName) : List Method :=
  ((c.get? name).map TypeDeclaration.ownMethods).getD []

/-- The methods visible on the type `name`: `ownMethods` of the types that `hierarchy` leads to, in
the breadth-first order of `visit`, each once. -/
def visibleMethods (c : Catalog) (name : TypeName) : List Method :=
  distinct ((c.hierarchy.graph.visit name).flatMap c.ownMethods)

/-- The declared type `name` with its `visibleMethods`. -/
def methodSet? (c : Catalog) (name : TypeName) : Option MethodSet :=
  (c.get? name).map fun d => ⟨d.descriptor, c.visibleMethods name⟩

/-- `c.methodSet? name` is there exactly if `c.contains name`. -/
@[simp] theorem methodSet?_isSome (c : Catalog) (name : TypeName) :
    (c.methodSet? name).isSome = c.contains name := by
  simp [methodSet?, contains, OrderedMap.contains, get?]

/-- `c.names` lists the types that `c.contains`. -/
theorem mem_names_iff {c : Catalog} {name : TypeName} :
    name ∈ c.names ↔ c.contains name = true :=
  OrderedMap.mem_keys_iff

/-- The target of `c.methodSet? name` is the declaration `c.get? name`. -/
theorem exists_of_methodSet? {c : Catalog} {name : TypeName} {m : MethodSet}
    (h : c.methodSet? name = some m) : ∃ d, c.get? name = some d ∧ m.target = d.descriptor := by
  obtain ⟨d, hd, rfl⟩ := Option.map_eq_some_iff.1 h
  exact ⟨d, hd, rfl⟩

/-- `m.target.name = name` for the method set `m` of `name`. -/
theorem target_name_of_methodSet? {c : Catalog} {name : TypeName} {m : MethodSet}
    (h : c.methodSet? name = some m) : m.target.name = name := by
  obtain ⟨d, hd, htarget⟩ := exists_of_methodSet? h
  rw [htarget]
  exact c.name_eq name d hd

end Catalog

end AccessorSchema
