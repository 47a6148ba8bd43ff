import AccessorSchema.Conflict
import AccessorSchema.Property

/-!
# Groups of methods and the accessors made of them

* **`AccessorGroup`** — the different methods of one name; `AccessorGroups.ofMethods` splits a list
  of methods into its groups, by increasing name.
* **`Accessor`** — a getter or setter: its declarations, the most specific of them, and the most
  specific one of each name among them.
-/

namespace AccessorSchema

/-- The different `methods` that share a `name`, in the order they were given. -/
structure AccessorGroup where
  name : String
  methods : List Method
deriving DecidableEq, Repr

namespace AccessorGroup

/-- The group of `name` in a list of `methods`, each method once. -/
def ofMethods (name : String) (methods : List Method) : AccessorGroup :=
  ⟨name, distinct (methods.filter (·.name = name))⟩

/-- The members of `g` that satisfy `keep`. -/
def filter (g : AccessorGroup) (keep : Method → Bool) : AccessorGroup :=
  ⟨g.name, g.methods.filter keep⟩

/-- The members of `g` without parameters. -/
def zeroParameter (g : AccessorGroup) : AccessorGroup := g.filter (·.arity = 0)

end AccessorGroup

/-- Groups with different names, by increasing `name`. -/
abbrev AccessorGroups := List AccessorGroup

namespace AccessorGroups

/-- The groups of a list of `methods`, one `AccessorGroup.ofMethods` for each name. -/
def ofMethods (methods : List Method) : AccessorGroups :=
  (OrderedSet.ofList (methods.map Method.name)).toList.map (AccessorGroup.ofMethods · methods)

/-- The group of `name` among `groups`. -/
def get? (groups : AccessorGroups) (name : String) : Option AccessorGroup :=
  groups.find? (·.name = name)

end AccessorGroups

/-- A getter or setter as the `declarations` it consists of, of which one is the `mostSpecific`. -/
structure Accessor where
  declarations : List Method
  mostSpecific : Method
  /-- The most specific declaration of each name, that of `mostSpecific` first. -/
  getters : List Method
deriving DecidableEq, Repr

namespace Accessor

/-- The accessor made of `declarations`, unless there are none; `h` decides which is
`mostSpecific`. -/
def ofDeclarations? (h : TypeHierarchy) (declarations : List Method) : Option Accessor := do
  let top ← h.mostSpecific? declarations
  let names := distinct (top.name :: declarations.map Method.name)
  return {
    declarations
    mostSpecific := top
    getters := names.filterMap fun n => h.mostSpecific? (declarations.filter (·.name = n)) }

/-- Whether some declaration of `a` carries the marker `k`. -/
def hasMarker (a : Accessor) (k : Marker) : Bool := a.declarations.any (·.hasMarker k)

/-- The types that declare `a`. -/
def declaringTypes (a : Accessor) : OrderedSet TypeName :=
  .ofList (a.declarations.map Method.declaringType)

end Accessor

end AccessorSchema
