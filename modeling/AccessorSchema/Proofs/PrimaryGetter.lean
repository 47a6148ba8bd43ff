import AccessorSchema.Proofs.GetterShape

/-!
# The primary getter

A property takes its value type from the most specific of all its getters, and lists its getters by
name, the name of that getter first. The choice is made twice, over all getters and over those of
the name, and the two need not agree when twins are merged:

* **`Accessor.head?_getters`** — the first getter is the most specific of its name;
* `BindsGetters.head?_getters` — for a bound residue this is a choice among the getters of one kind,
  which agrees with the choice over all if that fell on a `get` getter (`head?_getters_of_get`);
* **`Extractor.valueType_primaryGetter_iff`** — when the first getter returns the value type.
-/

namespace AccessorSchema

/-- **The first of `getters` is the most specific of the name that comes first**, that of
`mostSpecific`. -/
theorem Accessor.head?_getters {h : TypeHierarchy} {declarations : List Method} {a : Accessor}
    (ha : Accessor.ofDeclarations? h declarations = some a) :
    a.getters.head? = h.mostSpecific? (declarations.filter (·.name = a.mostSpecific.name)) := by
  obtain ⟨-, htop, hgetters⟩ := ofDeclarations?_eq_some_iff.1 ha
  have hmem : a.mostSpecific ∈ declarations := TypeHierarchy.mem_of_mostSpecific? htop
  have hne : declarations.filter (·.name = a.mostSpecific.name) ≠ [] :=
    List.ne_nil_of_mem (List.mem_filter.2 ⟨hmem, by simp⟩)
  obtain ⟨g, hg⟩ := h.exists_mostSpecific? hne
  rw [hgetters, distinct_cons, List.filterMap_cons, hg]
  rfl

namespace BindsGetters

variable {h : TypeHierarchy} {types : TypeSettings} {methods getters : List Method}
  {residue : String} {a : Accessor} (hbinds : BindsGetters h types methods residue getters)
  (ha : Accessor.ofDeclarations? h getters = some a)

include hbinds ha

/-- **The first of `getters` is chosen among `gettersOfKind`**, where the kind is that of
`mostSpecific`. -/
theorem head?_getters {kind : GetterKind} (hname : a.mostSpecific.name = getterName kind residue) :
    a.getters.head? = h.mostSpecific? (gettersOfKind methods residue kind) := by
  rw [Accessor.head?_getters ha, hname, hbinds.eq_append, filter_name_getters]

/-- **If `mostSpecific` is a `get` getter, it comes first.** The choice over all getters starts with
the `get` getters, and no twin has replaced what it has found there. -/
theorem head?_getters_of_get (hname : a.mostSpecific.name = getterName .get residue) :
    a.getters.head? = some a.mostSpecific := by
  have htop := Accessor.mostSpecific?_eq ha
  have hmem := TypeHierarchy.mem_of_mostSpecific? htop
  have hnot : a.mostSpecific ∉ twinGetters methods residue := by
    intro htwin
    rw [(mem_of_mem_twinGetters htwin).2] at hname
    exact absurd (getterName_inj.1 hname).1 (by decide)
  have hplain : a.mostSpecific ∈ plainGetters methods residue :=
    (hbinds.mem_plainGetters_or_mem_twinGetters hmem).resolve_right hnot
  obtain ⟨m, hm⟩ := h.exists_mostSpecific? (List.ne_nil_of_mem hplain)
  rw [hbinds.eq_append] at htop
  rw [hbinds.head?_getters ha hname]
  rcases TypeHierarchy.mostSpecific?_append_eq_or hm htop with heq | htwin
  · rw [heq]
    exact hm
  · exact absurd htwin hnot

end BindsGetters

namespace Extractor

/-- **When the first getter returns the value type.** Under every policy, every bound property has a
`primaryGetter?`, and it returns the `valueType` of the property, exactly if, wherever `MergesTwins`
holds and the most specific getter of all is an `is` getter, the most specific of the `twinGetters`
alone returns the same type. -/
theorem valueType_primaryGetter_iff (x : Extractor) (m : MethodSet) :
    (∀ p ∈ (x.extract m).properties,
        ∃ g, p.primaryGetter? = some g ∧ p.valueType = g.returnType) ↔
      ∀ residue top twin, MergesTwins x.hierarchy x.types m.methods residue top →
        x.hierarchy.mostSpecific? (twinGetters m.methods residue) = some twin →
          top.name = getterName .is residue → top.returnType = twin.returnType := by
  constructor
  · intro h residue top twin hm ht hname
    have hbinds := BindsGetters.merged hm
    obtain ⟨a, ha⟩ := Accessor.exists_ofDeclarations? x.hierarchy
      (TypeHierarchy.ne_nil_of_mostSpecific? hm.chosen)
    obtain rfl : top = a.mostSpecific :=
      Option.some.inj (hm.chosen.symm.trans (Accessor.mostSpecific?_eq ha))
    have hprop := (x.mem_extract_properties_iff m).2 ⟨residue, _, a, hbinds, ha, rfl⟩
    obtain ⟨g, hg, hvalue⟩ := h _ hprop
    have hfirst : a.getters.head? = some twin := (hbinds.head?_getters ha hname).trans ht
    obtain rfl : twin = g := Option.some.inj (hfirst.symm.trans hg)
    exact hvalue
  · intro h p hp
    obtain ⟨residue, getters, a, hbinds, ha, rfl⟩ := (x.mem_extract_properties_iff m).1 hp
    have htop := Accessor.mostSpecific?_eq ha
    obtain ⟨kind, hname⟩ := (hbinds.named (TypeHierarchy.mem_of_mostSpecific? htop)).2
    cases kind with
    | get => exact ⟨a.mostSpecific, hbinds.head?_getters_of_get ha hname, rfl⟩
    | is =>
      have hfirst := hbinds.head?_getters ha hname
      -- The two choices are over the same list unless twins have been merged.
      cases hbinds with
      | plain _ _ alone =>
        have hget := (mem_plainGetters.1 (TypeHierarchy.mem_of_mostSpecific? htop)).2.1
        rw [hname] at hget
        exact absurd (getterName_inj.1 hget).1 (by decide)
      | merged merges =>
        obtain rfl := Option.some.inj (merges.chosen.symm.trans htop)
        obtain ⟨twin, ht, -⟩ := merges.twin
        exact ⟨twin, hfirst.trans ht, h residue _ twin merges ht hname⟩
      | twin _ _ _ _ _ => exact ⟨a.mostSpecific, hfirst.trans htop, rfl⟩

/-- Two boolean types, and two unrelated supertypes `A` and `B` of `T`, one of them with a supertype
`P` of its own. -/
def boxedBooleans : Extractor :=
  managed {} { boolean := .ofList ["Boolean", "boolean"] }
    (.ofDeclarations [("T", ["A", "B"]), ("B", ["P"])])

/-- A getter of the topmost type `P` and two twins: all are boolean, but the twin that can be
compared with the getter, that of `B`, is of another boolean type. -/
def boxedTwins : MethodSet where
  target := { name := "T", supertypes := ["A", "B"] }
  methods :=
    [{ name := "isX", declaringType := "A", returnType := "boolean" },
      { name := "isX", declaringType := "B", returnType := "Boolean" },
      { name := "getX", declaringType := "P", returnType := "boolean" }]

/-- **The `primaryGetter?` of the property of `boxedTwins` does not return its `valueType`.** -/
theorem boxedTwins_primaryGetter :
    ¬ ∀ p ∈ (boxedBooleans.extract boxedTwins).properties,
      ∃ g, p.primaryGetter? = some g ∧ p.valueType = g.returnType := by
  intro h
  -- The value type is that of the twin in `B`, and the first getter is the twin in `A`.
  have hprops : ((boxedBooleans.extract boxedTwins).properties.map fun p =>
      (p.valueType, p.primaryGetter?.map Method.returnType)) =
        [("Boolean", some "boolean")] := by cbv
  obtain ⟨p, hp, heq⟩ := List.mem_map.1 (hprops ▸ List.mem_singleton_self _)
  obtain ⟨g, hg, hvalue⟩ := h p hp
  rw [hg, Option.map_some, ← hvalue, Prod.mk.injEq, Option.some.injEq] at heq
  exact absurd (heq.1.symm.trans heq.2) (by decide)

end Extractor

end AccessorSchema
