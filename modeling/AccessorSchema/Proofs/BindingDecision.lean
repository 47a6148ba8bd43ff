import AccessorSchema.Proofs.PropertyNames

/-!
# The decision to bind a residue

Binding settles a `get` group together with its `is` twin, drops overloads from either, and looks
at parameters and booleans on the way. What comes of it depends on few lists only: the `get`
getters of the residue without parameters, and its `is` getters, or if these differ in parameter
lists those of them without.

* **`declarationsOf`** — the methods that count as declarations of a name;
* `exists_twin_iff` — without `get` getters it is enough to look at the `is` getters without parameters;
* **`exists_bindsGetters_iff`** — which residues getters bind;
* **`Extractor.exists_property_iff`** — which residues have a property.
-/

namespace AccessorSchema

/-! ## Declarations of a name -/

/-- The methods that count as declarations of `name`: the different methods of the name, by first
occurrence, or if these differ in parameter lists those of them without parameters. -/
def declarationsOf (methods : List Method) (name : String) : List Method :=
  let named := methodsNamed name methods
  if ∀ m ∈ named, ∀ n ∈ named, m.parameterTypes = n.parameterTypes then named
  else named.filter (·.arity = 0)

/-- `overloads (methodsNamed name methods) = []` exactly if the methods of `name` have one parameter
list. -/
theorem overloads_methodsNamed_eq_nil_iff {methods : List Method} {name : String} :
    overloads (methodsNamed name methods) = [] ↔
      ∀ m ∈ methodsNamed name methods, ∀ n ∈ methodsNamed name methods,
        m.parameterTypes = n.parameterTypes := by
  rw [overloads_eq_nil_iff]
  constructor
  · exact fun h m hm n hn => (h m hm n hn).2
  · intro h m hm n hn
    have hname : m.name = n.name := by rw [(mem_methodsNamed.1 hm).2, (mem_methodsNamed.1 hn).2]
    exact ⟨hname, h m hm n hn⟩

/-- **`declarationsOf methods name`** is what remains of the methods of `name` without overloads,
`unambiguous`. -/
theorem declarationsOf_eq_unambiguous (methods : List Method) (name : String) :
    declarationsOf methods name = unambiguous (methodsNamed name methods) := by
  unfold declarationsOf unambiguous
  exact if_congr overloads_methodsNamed_eq_nil_iff.symm rfl rfl

/-- `twinGetters methods residue`, the `is` getters that binding looks at, are the `declarationsOf`
their name. -/
theorem twinGetters_eq_declarationsOf (methods : List Method) (residue : String) :
    twinGetters methods residue = declarationsOf methods (getterName .is residue) :=
  (declarationsOf_eq_unambiguous ..).symm

/-- If one of the methods of `unambiguous methods` has no parameters, none has. -/
theorem filter_unambiguous_eq_self {methods : List Method} {m : Method}
    (hm : m ∈ unambiguous methods) (h0 : m.parameterTypes = []) :
    (unambiguous methods).filter (·.arity = 0) = unambiguous methods := by
  refine List.filter_eq_self.2 fun n hn => ?_
  have hn0 : n.parameterTypes = [] := by rw [parameterTypes_eq_of_mem_unambiguous hn hm, h0]
  rw [decide_eq_true_eq, Method.arity_eq_zero_iff]
  exact hn0

/-! ## Bound residues -/

variable {h : TypeHierarchy} {types : TypeSettings} {methods : List Method} {residue : String}

/-- **Without `get` getters the `is` getters without parameters are bound**, if the most specific of
them is boolean. -/
theorem exists_twin_iff :
    (∃ top, h.mostSpecific? (twinGetters methods residue) = some top ∧ top.parameterTypes = [] ∧
        types.isBoolean top.returnType = true) ↔
      ∃ top, h.mostSpecific? ((twinGetters methods residue).filter (·.arity = 0)) = some top ∧
        types.isBoolean top.returnType = true := by
  constructor
  · rintro ⟨top, htop, h0, hbool⟩
    refine ⟨top, ?_, hbool⟩
    rw [twinGetters, filter_unambiguous_eq_self (TypeHierarchy.mem_of_mostSpecific? htop) h0]
    exact htop
  · rintro ⟨top, htop, hbool⟩
    obtain ⟨hmem, harity⟩ := List.mem_filter.1 (TypeHierarchy.mem_of_mostSpecific? htop)
    have h0 : top.parameterTypes = [] := Method.arity_eq_zero_iff.1 (of_decide_eq_true harity)
    rw [twinGetters, filter_unambiguous_eq_self hmem h0] at htop
    exact ⟨top, htop, h0, hbool⟩

/-- **`BindsGetters` holds for some getters exactly if** the residue is well formed and one of three
things holds, by kind. -/
theorem exists_bindsGetters_iff :
    (∃ getters, BindsGetters h types methods residue getters) ↔
      isWellFormedResidue residue = true ∧
        (plainGetters methods residue ≠ [] ∧ twinGetters methods residue = [] ∨
          (∃ top, MergesTwins h types methods residue top) ∨
          plainGetters methods residue = [] ∧
            ∃ top, h.mostSpecific? ((twinGetters methods residue).filter (·.arity = 0)) = some top ∧
              types.isBoolean top.returnType = true) := by
  rw [← exists_twin_iff]
  constructor
  · rintro ⟨getters, hbinds⟩
    refine ⟨hbinds.wellFormed, ?_⟩
    cases hbinds with
    | plain _ some alone => exact .inl ⟨some, alone⟩
    | @merged top merges => exact .inr (.inl ⟨top, merges⟩)
    | @twin top _ alone chosen parameterless boolean =>
      exact .inr (.inr ⟨alone, top, chosen, parameterless, boolean⟩)
  · rintro ⟨hw, ⟨some, alone⟩ | ⟨top, merges⟩ | ⟨alone, top, chosen, parameterless, boolean⟩⟩
    · exact ⟨_, .plain hw some alone⟩
    · exact ⟨_, .merged merges⟩
    · exact ⟨_, .twin hw alone chosen parameterless boolean⟩

/-- When `MergesTwins` holds for a well-formed residue, written out. -/
theorem exists_mergesTwins_iff (hw : isWellFormedResidue residue = true) :
    (∃ top, MergesTwins h types methods residue top) ↔
      ∃ g t top, h.mostSpecific? (plainGetters methods residue) = some g ∧
        types.isBoolean g.returnType = true ∧
        h.mostSpecific? (twinGetters methods residue) = some t ∧
        types.isBoolean t.returnType = true ∧
        h.mostSpecific? (plainGetters methods residue ++ twinGetters methods residue) = some top ∧
        top.parameterTypes = [] := by
  constructor
  · rintro ⟨top, merges⟩
    obtain ⟨g, hg, hgbool⟩ := merges.plain
    obtain ⟨t, ht, htbool⟩ := merges.twin
    exact ⟨g, t, top, hg, hgbool, ht, htbool, merges.chosen, merges.parameterless⟩
  · rintro ⟨g, t, top, hg, hgbool, ht, htbool, htop, h0⟩
    exact ⟨top, hw, ⟨g, hg, hgbool⟩, ⟨t, ht, htbool⟩, htop, h0⟩

/-! ## Bound properties -/

namespace Extractor

/-- A residue has a property (`HasResidue`) exactly if some getters bind it (`BindsGetters`). -/
theorem exists_hasResidue_iff {x : Extractor} {m : MethodSet} {residue : String} :
    (∃ p ∈ (x.extract m).properties, p.HasResidue residue) ↔
      ∃ getters, BindsGetters x.hierarchy x.types m.methods residue getters := by
  constructor
  · rintro ⟨p, hp, hresidue⟩
    obtain ⟨r, getters, a, hbinds, ha, rfl⟩ := (x.mem_extract_properties_iff m).1 hp
    obtain rfl : r = residue := (hbinds.hasResidue ha _).unique hresidue
    exact ⟨getters, hbinds⟩
  · rintro ⟨getters, hbinds⟩
    obtain ⟨p, hp, -, hresidue⟩ := exists_property_of_bindsGetters hbinds
    exact ⟨p, hp, hresidue⟩

/-- **Which residues have a property.** Under every policy a residue has a bound property exactly if
`isWellFormedResidue` holds and one of three things does: there are `plainGetters` and no
`twinGetters`, the `is` getters that count as declarations; the most specific getter of either kind
is boolean, and the most specific of all has no parameters; or there are no `plainGetters`, and the
most specific `is` getter without parameters is boolean. -/
theorem exists_property_iff (x : Extractor) (m : MethodSet) (residue : String) :
    (∃ p ∈ (x.extract m).properties, p.HasResidue residue) ↔
      isWellFormedResidue residue = true ∧
        (plainGetters m.methods residue ≠ [] ∧
            declarationsOf m.methods (getterName .is residue) = [] ∨
          (∃ g t top, x.hierarchy.mostSpecific? (plainGetters m.methods residue) = some g ∧
            x.types.isBoolean g.returnType = true ∧
            x.hierarchy.mostSpecific? (declarationsOf m.methods (getterName .is residue)) = some t ∧
            x.types.isBoolean t.returnType = true ∧
            x.hierarchy.mostSpecific? (plainGetters m.methods residue ++
              declarationsOf m.methods (getterName .is residue)) = some top ∧
            top.parameterTypes = []) ∨
          plainGetters m.methods residue = [] ∧
            ∃ top, x.hierarchy.mostSpecific? ((declarationsOf m.methods
                (getterName .is residue)).filter (·.arity = 0)) = some top ∧
              x.types.isBoolean top.returnType = true) := by
  rw [exists_hasResidue_iff, exists_bindsGetters_iff, ← twinGetters_eq_declarationsOf]
  refine and_congr_right fun hw => ?_
  rw [exists_mergesTwins_iff hw]

end Extractor

end AccessorSchema
