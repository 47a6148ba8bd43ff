import AccessorSchema.Proofs.BindingDecision
import AccessorSchema.Proofs.Reachability

/-!
# What a bound property consists of

A property is put together from the declarations of its getters: it takes its value type from the
most specific of them, is declared wherever one of them is, and is opaque as soon as one of them has
the marker, even one that is overridden and bound to nothing.

* **`BoundProperty.declarations`** — the declarations of the getters of a property, with `get`
  before `is`;
* **`BoundProperty.MadeOf`** — what a property consists of, in terms of the methods of its type;
* `BindsGetters.declarations_propertyOf` — these are the getters that the residue was bound by;
* **`Extractor.properties_madeOf`** — all properties of an extraction are made so, and those that are
  not opaque ask for their value types.
-/

namespace AccessorSchema

/-! ## Contents -/

namespace BoundProperty

/-- `declarations p methods residue`: the declarations of the names that the getters of `p` have,
with `get` before `is`. -/
def declarations (p : BoundProperty) (methods : List Method) (residue : String) : List Method :=
  [GetterKind.get, GetterKind.is].flatMap fun kind =>
    if getterName kind residue ∈ p.getterBindings.map Method.name then
      declarationsOf methods (getterName kind residue)
    else []

/-- **`MadeOf p h methods residue`: what a bound property consists of**, in terms of the `methods`
of its type. -/
structure MadeOf (p : BoundProperty) (h : TypeHierarchy) (methods : List Method)
    (residue : String) : Prop where
  /-- The property is named after its residue, by `decapitalize`. -/
  name_eq : p.name = decapitalize residue
  /-- There is a getter in `getterBindings`. -/
  getters_ne_nil : p.getterBindings ≠ []
  /-- Getters are named after the `residue`. -/
  named : ∀ g ∈ p.getterBindings,
    g.name = getterName .get residue ∨ g.name = getterName .is residue
  /-- There is one getter of a name in `getterBindings`. -/
  names_nodup : (p.getterBindings.map Method.name).Nodup
  /-- A getter is the `mostSpecific?` declaration of its name. -/
  chosen : ∀ g ∈ p.getterBindings, h.mostSpecific? (declarationsOf methods g.name) = some g
  /-- The property is declared where its getters are, overridden `declarations` included. -/
  declared : ∀ t, t ∈ p.declaringTypes ↔
    ∃ d ∈ p.declarations methods residue, d.declaringType = t
  /-- One of the `declarations` with the marker makes the property opaque. -/
  marked : p.isOpaque = true ↔
    ∃ d ∈ p.declarations methods residue, d.hasMarker .unmanaged = true
  /-- The value is what the `mostSpecific?` of all `declarations` returns. -/
  typed : ∃ top, h.mostSpecific? (p.declarations methods residue) = some top ∧
    p.valueType = top.returnType

end BoundProperty

/-! ## Getters, one for each name -/

/-- **An accessor of `ofDeclarations?` has one getter of a name.** -/
theorem Accessor.nodup_getters_names {h : TypeHierarchy} {declarations : List Method} {a : Accessor}
    (ha : Accessor.ofDeclarations? h declarations = some a) :
    (a.getters.map Method.name).Nodup := by
  obtain ⟨-, -, hgetters⟩ := ofDeclarations?_eq_some_iff.1 ha
  have hname : ∀ n g, h.mostSpecific? (declarations.filter (·.name = n)) = some g → g.name = n := by
    intro n g hg
    exact of_decide_eq_true (List.mem_filter.1 (TypeHierarchy.mem_of_mostSpecific? hg)).2
  rw [hgetters, List.Nodup, List.pairwise_map, List.pairwise_filterMap]
  refine (nodup_distinct _).imp fun {n n'} hne g hg g' hg' => ?_
  rw [hname n g hg, hname n' g' hg']
  exact hne

/-- The `gettersOfKind` that binding looks at are the `declarationsOf` their name, if there are
any. -/
theorem gettersOfKind_eq_declarationsOf {methods : List Method} {residue : String}
    {kind : GetterKind} (hne : gettersOfKind methods residue kind ≠ []) :
    gettersOfKind methods residue kind = declarationsOf methods (getterName kind residue) := by
  rw [declarationsOf_eq_unambiguous]
  cases kind with
  | get => exact (unambiguous_get hne).symm
  | is => rfl

namespace BindsGetters

variable {h : TypeHierarchy} {types : TypeSettings} {methods getters : List Method}
  {residue : String} {a : Accessor} (hbinds : BindsGetters h types methods residue getters)
  (ha : Accessor.ofDeclarations? h getters = some a)

include hbinds

/-- Of the getters for which `BindsGetters` holds those of one name are `gettersOfKind` of one
kind. -/
theorem filter_name_eq_gettersOfKind (kind : GetterKind) :
    getters.filter (·.name = getterName kind residue) = gettersOfKind methods residue kind := by
  rw [hbinds.eq_append, filter_name_getters]

include ha

/-- **Getters are bound of a kind exactly if there are `gettersOfKind`.** -/
theorem getterName_mem_iff {kind : GetterKind} :
    getterName kind residue ∈ a.getters.map Method.name ↔
      gettersOfKind methods residue kind ≠ [] := by
  rw [← hbinds.filter_name_eq_gettersOfKind]
  constructor
  · intro hmem
    obtain ⟨g, hg, hname⟩ := List.mem_map.1 hmem
    exact List.ne_nil_of_mem
      (List.mem_filter.2 ⟨Accessor.getters_subset ha hg, decide_eq_true hname⟩)
  · intro hne
    obtain ⟨d, hd⟩ := List.exists_mem_of_ne_nil _ hne
    obtain ⟨hmem, hname⟩ := List.mem_filter.1 hd
    obtain ⟨g, hg, hgname, -⟩ := Accessor.exists_mem_getters ha hmem
    rw [← of_decide_eq_true hname, ← hgname]
    exact List.mem_map_of_mem hg

/-- A bound getter is the `mostSpecific?` of `declarationsOf` its name. -/
theorem mostSpecific?_declarationsOf {g : Method} (hg : g ∈ a.getters) :
    h.mostSpecific? (declarationsOf methods g.name) = some g := by
  obtain ⟨hmem, hchosen⟩ := (Accessor.mem_getters_iff ha).1 hg
  obtain ⟨kind, hname⟩ := (hbinds.named hmem).2
  have hbound : getterName kind residue ∈ a.getters.map Method.name :=
    hname ▸ List.mem_map_of_mem hg
  have hne := (hbinds.getterName_mem_iff ha).1 hbound
  rw [hname, ← gettersOfKind_eq_declarationsOf hne, ← hbinds.filter_name_eq_gettersOfKind, ← hname]
  exact hchosen

/-- **The `declarations` of a property are the getters that its residue was bound by.** -/
theorem declarations_propertyOf (b : Binder) :
    (b.propertyOf residue a).declarations methods residue = getters := by
  have hkind : ∀ kind, (if getterName kind residue ∈ a.getters.map Method.name then
      declarationsOf methods (getterName kind residue) else []) =
        gettersOfKind methods residue kind := by
    intro kind
    by_cases hne : gettersOfKind methods residue kind = []
    · -- The name can have declarations even so: a lone `get` getter with parameters is one.
      rw [if_neg fun hmem => (hbinds.getterName_mem_iff ha).1 hmem hne, hne]
    · rw [if_pos ((hbinds.getterName_mem_iff ha).2 hne), gettersOfKind_eq_declarationsOf hne]
  have hgetters : (b.propertyOf residue a).getterBindings = a.getters := rfl
  rw [BoundProperty.declarations, hgetters, hbinds.eq_append]
  simp only [hkind, List.flatMap_cons, List.flatMap_nil, List.append_nil, gettersOfKind]

/-- **The property that `propertyOf` makes is `MadeOf` the declarations of its getters.** -/
theorem madeOf_propertyOf (b : Binder) : (b.propertyOf residue a).MadeOf h methods residue := by
  have hdeclarations := hbinds.declarations_propertyOf ha b
  have hall : a.declarations = getters := Accessor.declarations_eq ha
  have hresidue : (b.propertyOf residue a).HasResidue residue :=
    hbinds.hasResidue ha b
  refine
    { name_eq := rfl
      getters_ne_nil := hresidue.1
      named := fun g hg => ?_
      names_nodup := Accessor.nodup_getters_names ha
      chosen := fun g hg => hbinds.mostSpecific?_declarationsOf ha hg
      declared := fun t => ?_
      marked := ?_
      typed := ⟨a.mostSpecific, ?_, rfl⟩ }
  · obtain ⟨kind, hname⟩ := hresidue.2 g hg
    cases kind with
    | get => exact .inl hname
    | is => exact .inr hname
  · -- Declaring types are collected from all declarations, not from the getters that are kept.
    have htypes : (b.propertyOf residue a).declaringTypes =
        .ofList (a.declarations.map Method.declaringType) := rfl
    rw [hdeclarations, htypes, OrderedSet.mem_ofList, List.mem_map, hall]
  · have hmarker : (b.propertyOf residue a).isOpaque = a.declarations.any (·.hasMarker .unmanaged) :=
      rfl
    rw [hdeclarations, hmarker, List.any_eq_true, hall]
  · rw [hdeclarations]
    exact Accessor.mostSpecific?_eq ha

end BindsGetters

/-! ## Bound properties -/

namespace Extractor

/-- **What extraction binds and asks for.** Under every policy each bound property has exactly one
residue and is `MadeOf` the declarations of its getters; and there is one of `requests` for each
property that is not opaque, in the order of the properties and with the type itself as its
`owner`. -/
theorem properties_madeOf (x : Extractor) (m : MethodSet) :
    (∀ p ∈ (x.extract m).properties, ∃ residue, (∀ r, p.HasResidue r ↔ r = residue) ∧
        p.MadeOf x.hierarchy m.methods residue) ∧
      ((x.extract m).requests.map fun r => (r.owner, r.property, r.valueType, r.description)) =
        ((x.extract m).properties.filter (!·.isOpaque)).map fun p =>
          (m.target.name, p.name, p.valueType, p.description m.target.name) := by
  constructor
  · intro p hp
    obtain ⟨residue, getters, a, hbinds, ha, rfl⟩ := (x.mem_extract_properties_iff m).1 hp
    have hresidue : ((x.binder m).propertyOf residue a).HasResidue residue :=
      hbinds.hasResidue ha _
    refine ⟨residue, fun r => ?_, hbinds.madeOf_propertyOf ha (x.binder m)⟩
    constructor
    · exact fun hr => hr.unique hresidue
    · rintro rfl
      exact hresidue
  · rw [requests_extract, List.map_map]
    rfl

/-- A getter of `T` that overrides one of `P` with the marker `unmanaged`. -/
def hiddenMarker : MethodSet where
  target := { name := "T", supertypes := ["P"] }
  methods :=
    [{ name := "getX", declaringType := "T", returnType := "A" },
      { name := "getX", declaringType := "P", returnType := "A",
        markers := .ofList [.unmanaged] }]

/-- The property of `hiddenMarker` is opaque, although the getter that is bound does not have the
marker. -/
theorem hiddenMarker_madeOf :
    ∃ p ∈ ((managed {} {} (.ofDeclarations [("T", ["P"])])).extract hiddenMarker).properties,
      p.getterBindings = [{ name := "getX", declaringType := "T", returnType := "A" }] ∧
        p.isOpaque = true ∧
        ∃ residue, p.MadeOf (.ofDeclarations [("T", ["P"])]) hiddenMarker.methods residue := by
  have hcontents : ((managed {} {} (.ofDeclarations [("T", ["P"])])).extract
      hiddenMarker).properties.map (fun p => (p.getterBindings, p.isOpaque)) =
        [([{ name := "getX", declaringType := "T", returnType := "A" }], true)] := by cbv
  obtain ⟨p, hp, heq⟩ := List.mem_map.1 (hcontents ▸ List.mem_singleton_self _)
  obtain ⟨hgetters, hopaque⟩ := Prod.mk.inj heq
  obtain ⟨residue, -, hmade⟩ := (properties_madeOf _ _).1 p hp
  exact ⟨p, hp, hgetters, hopaque, residue, hmade⟩

end Extractor

end AccessorSchema
