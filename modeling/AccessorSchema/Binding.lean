import AccessorSchema.AccessorName
import AccessorSchema.Policy.Basic
import AccessorSchema.TypeSettings

/-!
# Binding accessors to properties

The methods of a type are settled group by group, a group being the methods of one name. What one
group comes to depends on the groups alone and on no earlier decision, so a **`GroupOutcome`** is a
value: the property that was bound, if any, the methods accounted for, the journal, and the name of
the one further group that was settled with it.

* **`Binder.settle`** — the outcome of one group;
* **`Binder.bind`** — the outcomes of all groups by increasing name, without the groups that
  another one has settled.

A getter `getX` settles its `isX` twin whenever the `get` group itself is well formed: the two are
merged if both are boolean, and otherwise the twin is refused with it.
-/

namespace AccessorSchema

/-- What has become of a group of methods: a `property` if one was bound, and what was said in the
`journal`. -/
structure GroupOutcome where
  property : Option BoundProperty := none
  /-- The methods accounted for, among them the methods of a setter's group. -/
  handled : List Method := []
  journal : Journal := ∅
  /-- The name of the group that was settled together with this one: that of an `is` twin. -/
  absorbed : Option String := none

namespace GroupOutcome

/-- The outcome `∅` accounts for nothing. -/
instance : EmptyCollection GroupOutcome := ⟨{}⟩

/-- An outcome in which only the journal `j` says something. -/
def ofJournal (j : Journal) : GroupOutcome := { journal := j }

/-- Puts methods that were `handled`, and the `journal` on them, in front of the outcome `o`. -/
def after (handled : List Method) (journal : Journal) (o : GroupOutcome) : GroupOutcome :=
  { o with handled := handled ++ o.handled, journal := journal ++ o.journal }

end GroupOutcome

/-- What the binding of the methods of `subject` depends on: the `policy` that is asked, the
`hierarchy` and the `types` that decide, and the methods by name. -/
structure Binder where
  policy : Policy
  hierarchy : TypeHierarchy
  types : TypeSettings
  subject : TypeName
  groups : AccessorGroups

/-- What `withoutOverloads` leaves of a group, with the `journal` of its report. -/
structure Unambiguous where
  /-- The methods that go on to be bound. -/
  kept : List Method
  /-- The methods accounted for by the report on overloads. -/
  handled : List Method := []
  journal : Journal := ∅

namespace Binder

variable (b : Binder)

/-- Reports the `overloads` of `methods` to the policy; of an overloaded group only the methods
without parameters are kept, and all its methods are accounted for. -/
def withoutOverloads (methods : List Method) : Unambiguous :=
  match overloads methods with
  | [] => { kept := methods }
  | firsts =>
    { kept := methods.filter (·.arity = 0)
      handled := methods
      journal := b.policy.overloadedMethods b.subject firsts }

/-- A `getter` that is refused, with a `message` why. -/
def refuse (getter : Method) (message : String) : GroupOutcome :=
  .ofJournal (b.policy.invalidGetter b.subject getter message)

/-- The accessor that the group `setterName residue` makes. -/
def setterOf (residue : String) : Option Accessor :=
  (b.groups.get? (setterName residue)).bind fun g => Accessor.ofDeclarations? b.hierarchy g.methods

/-- Asks `b.policy` about the setter of a property, if there is one, and keeps it if the verdict is
`.accept`. -/
def bindSetter (valueType : TypeName) (getter : Accessor) :
    Option Accessor → Option Method × Journal
  | none => (none, ∅)
  | some setter =>
    match b.policy.validateSetter b.subject valueType getter setter with
    | (.accept, j) => (some setter.mostSpecific, j)
    | (.reject, j) => (none, j)

/-- Binds the declarations `getters` of a `residue`, and the setter `b.setterOf residue` with them,
to a property. They are refused if the most specific of them has parameters, or is an `is` getter
that is not boolean. -/
def bindProperty (kind : GetterKind) (residue : String) (getters : List Method) : GroupOutcome :=
  match Accessor.ofDeclarations? b.hierarchy getters with
  | none => ∅
  | some getter =>
    let primary := getter.mostSpecific
    -- A merged twin can have parameters even if the `get` getter has none.
    if primary.arity ≠ 0 then b.refuse primary "getter methods cannot take parameters"
    else if kind = .is ∧ !b.types.isBoolean primary.returnType then
      b.refuse primary "getter method name must start with 'get'"
    else
      let setter := b.setterOf residue
      let (state, stateJournal) := b.policy.classifyState b.subject getter
      let (setterBinding, setterJournal) := b.bindSetter primary.returnType getter setter
      { property := some {
          name := decapitalize residue
          valueType := primary.returnType
          state
          declaringTypes := getter.declaringTypes
          getterBindings := getter.getters
          setterBinding
          isOpaque := getter.hasMarker .unmanaged }
        handled := getter.declarations ++ (setter.map Accessor.declarations).getD []
        journal := stateJournal ++ setterJournal }

/-- Why a `get` getter of `residue` and its `is` twin cannot be merged. -/
def dualMismatchMessage (residue : String) : String :=
  "property '" ++ decapitalize residue ++ "' has both '" ++ dualName residue ++ "()' and '" ++
    GetterKind.get.text ++ residue ++ "()' getters, but they don't both return a boolean"

/-- Binds the `get` getters of a `residue`, merged with its `is` getters if there are any
(`dualName`); `primary` is the most specific of them. -/
def bindWithDual (residue : String) (primary : Method) (getters : List Method) : GroupOutcome :=
  match b.groups.get? (dualName residue) with
  | none => b.bindProperty .get residue getters
  | some dual =>
    let twin := b.withoutOverloads dual.methods
    let outcome :=
      match b.hierarchy.mostSpecific? twin.kept with
      -- The twin was nothing but overloads with parameters.
      | none => b.bindProperty .get residue getters
      | some dualGetter =>
        if b.types.isBoolean primary.returnType && b.types.isBoolean dualGetter.returnType then
          b.bindProperty .get residue (getters ++ twin.kept)
        else b.refuse dualGetter (dualMismatchMessage residue)
    { outcome.after twin.handled twin.journal with absorbed := some dual.name }

/-- Binds the getters of a well-formed name unless `primary`, the most specific of them, has
parameters. -/
def bindGetter (kind : GetterKind) (residue : String) (primary : Method) (getters : List Method) :
    GroupOutcome :=
  if primary.arity ≠ 0 then b.refuse primary "getter methods cannot take parameters"
  else
    match kind with
    | .get => b.bindWithDual residue primary getters
    | .is => b.bindProperty .is residue getters

/-- Settles the `methods` of an accessor name: getters are bound (`bindGetter`) or refused, and
setters are left to the getters they belong to. -/
def settleAccessor (name : String) (methods : List Method) : GroupOutcome :=
  let group := b.withoutOverloads methods
  let outcome :=
    match b.hierarchy.mostSpecific? group.kept with
    | none => ∅
    | some primary =>
      match GetterName.classify name with
      | .notGetter => ∅
      | .malformed kind => b.refuse primary (malformedGetterMessage kind)
      | .valid kind residue => b.bindGetter kind residue primary group.kept
  outcome.after group.handled group.journal

/-- Settles the `methods` of any other name: `overrideChains` are reported and accounted for, and
then overloads among the remaining methods. -/
def settleOrdinary (methods : List Method) : GroupOutcome :=
  match overrideChains methods with
  | [] =>
    let group := b.withoutOverloads methods
    (∅ : GroupOutcome).after group.handled group.journal
  | chains =>
    let group := b.withoutOverloads (methods.filter (· ∉ chains.flatten))
    ((∅ : GroupOutcome).after group.handled group.journal).after chains.flatten
      (b.policy.overriddenMethods b.subject chains)

/-- What becomes of the group `g`: `settleAccessor` or `settleOrdinary`, as its name says. -/
def settle (g : AccessorGroup) : GroupOutcome :=
  if isAccessorName g.name then b.settleAccessor g.name g.methods else b.settleOrdinary g.methods

end Binder

/-- The `properties` of a type, the methods `handled` for them, and what was reported in the
`journal`. -/
structure Binding where
  properties : List BoundProperty
  handled : OrderedSet Method
  journal : Journal

namespace Binder

variable (b : Binder)

/-- The names of the groups that another group settles, from `GroupOutcome.absorbed`. -/
def absorbedNames : List String := b.groups.filterMap fun g => (b.settle g).absorbed

/-- The outcomes of the groups, by increasing name and without the `absorbedNames`. -/
def outcomes : List GroupOutcome :=
  let absorbed := b.absorbedNames
  (b.groups.filter (·.name ∉ absorbed)).map b.settle

/-- Settles every group and collects the `outcomes`. -/
def bind : Binding :=
  let outcomes := b.outcomes
  { properties := outcomes.filterMap GroupOutcome.property
    handled := .ofList (outcomes.flatMap GroupOutcome.handled)
    journal := .concat (outcomes.map GroupOutcome.journal) }

end Binder

end AccessorSchema
