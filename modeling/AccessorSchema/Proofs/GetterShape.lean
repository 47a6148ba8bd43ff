import AccessorSchema.Proofs.ManagedExtraction

/-!
# The shape of bound getters

What the getters of a bound property look like is decided at the two places where getters are
checked, before twins are merged and after. The second check looks at the most specific getter of
all, which leaves two gaps, and the theorems say exactly when they show:

* **`Extractor.getters_parameterless_iff`** — all bound getters have no parameters exactly if every
  residue with merged twins has an `is` getter without parameters;
* **`Extractor.is_getters_boolean_iff`** — the properties with an `is` getter are boolean exactly
  if no merged `is` getter of another type is the most specific getter of all.
-/

namespace AccessorSchema

namespace Extractor

variable (x : Extractor) (m : MethodSet)

/-! ## Properties of an extraction -/

/-- The properties of `extract` are those of the residues for which `BindsGetters` holds. -/
theorem mem_extract_properties_iff {p : BoundProperty} :
    p ∈ (x.extract m).properties ↔
      ∃ residue getters a, BindsGetters x.hierarchy x.types m.methods residue getters ∧
        Accessor.ofDeclarations? x.hierarchy getters = some a ∧
        p = (x.binder m).propertyOf residue a :=
  Binder.mem_bind_properties_iff (x.binder_groups m)

variable {x m}

/-- **`MergesTwins` makes a property.** Its `valueType` is that of the most specific getter of all,
and the most specific `is` getter is one of its getters. -/
theorem exists_property_of_mergesTwins {residue : String} {top twin : Method}
    (hm : MergesTwins x.hierarchy x.types m.methods residue top)
    (ht : x.hierarchy.mostSpecific? (twinGetters m.methods residue) = some twin) :
    ∃ p ∈ (x.extract m).properties, p.valueType = top.returnType ∧ twin ∈ p.getterBindings := by
  have hne : plainGetters m.methods residue ++ twinGetters m.methods residue ≠ [] :=
    TypeHierarchy.ne_nil_of_mostSpecific? hm.chosen
  obtain ⟨a, ha⟩ := Accessor.exists_ofDeclarations? x.hierarchy hne
  have htop : top = a.mostSpecific :=
    Option.some.inj (hm.chosen.symm.trans (Accessor.mostSpecific?_eq ha))
  have hmem : twin ∈ twinGetters m.methods residue := TypeHierarchy.mem_of_mostSpecific? ht
  have hname : twin.name = getterName .is residue := (mem_of_mem_twinGetters hmem).2
  refine ⟨(x.binder m).propertyOf residue a, ?_, ?_, ?_⟩
  · exact (x.mem_extract_properties_iff m).2 ⟨residue, _, a, .merged hm, ha, rfl⟩
  · rw [htop]
    rfl
  · refine (Accessor.mem_getters_iff ha).2 ⟨List.mem_append_right _ hmem, ?_⟩
    -- Of the merged getters those of the twin's name are the `is` getters.
    simp only [hname, filter_name_getters]
    exact ht

/-! ## Parameters of getters -/

variable (x m)

/-- **When bound getters have no parameters.** Under every policy, `parameterTypes` is empty for all
getters of all bound properties exactly if every residue for which `MergesTwins` holds has an `is`
getter without parameters. -/
theorem getters_parameterless_iff :
    (∀ p ∈ (x.extract m).properties, ∀ g ∈ p.getterBindings, g.parameterTypes = []) ↔
      ∀ residue top, MergesTwins x.hierarchy x.types m.methods residue top →
        ∃ d ∈ m.methods, d.name = getterName .is residue ∧ d.parameterTypes = [] := by
  constructor
  · intro h residue top hm
    -- The most specific twin is bound, and so it is the getter without parameters.
    obtain ⟨twin, ht, -⟩ := hm.twin
    obtain ⟨p, hp, -, hmem⟩ := exists_property_of_mergesTwins hm ht
    obtain ⟨hin, hname⟩ := mem_of_mem_twinGetters (TypeHierarchy.mem_of_mostSpecific? ht)
    exact ⟨twin, hin, hname, h p hp twin hmem⟩
  · intro h p hp g hg
    obtain ⟨residue, getters, a, hbinds, ha, rfl⟩ := (x.mem_extract_properties_iff m).1 hp
    have hmem : g ∈ getters := Accessor.getters_subset ha hg
    rcases hbinds.mem_plainGetters_or_mem_twinGetters hmem with hplain | htwin
    · exact (mem_plainGetters.1 hplain).2.2
    · cases hbinds with
      | plain _ _ alone =>
        rw [alone] at htwin
        exact absurd htwin List.not_mem_nil
      | merged merges =>
        -- With a twin without parameters, overloads leave none that takes any.
        obtain ⟨d, hd, hname, h0⟩ := h residue _ merges
        have hd' : d ∈ methodsNamed (getterName .is residue) m.methods :=
          mem_methodsNamed.2 ⟨hd, hname⟩
        rw [twinGetters, unambiguous_eq_filter hd' h0, List.mem_filter] at htwin
        simpa using htwin.2
      | twin _ _ chosen parameterless _ =>
        have htop := TypeHierarchy.mem_of_mostSpecific? chosen
        rw [parameterTypes_eq_of_mem_unambiguous htwin htop, parameterless]

/-- A boolean `get` getter with a boolean `is` twin that takes a parameter. -/
def parameterizedTwin : MethodSet where
  target := { name := "T" }
  methods :=
    [{ name := "getX", declaringType := "T", returnType := "boolean" },
      { name := "isX", declaringType := "T", returnType := "boolean", parameterTypes := ["int"] }]

/-- **The twin in `parameterizedTwin` takes a parameter and is bound.** -/
theorem parameterizedTwin_bound :
    ¬ ∀ p ∈ ((managed {} {} {}).extract parameterizedTwin).properties,
      ∀ g ∈ p.getterBindings, g.parameterTypes = [] := by
  intro h
  have ht : (managed {} {} {}).hierarchy.mostSpecific? (twinGetters parameterizedTwin.methods "X")
      = some { name := "isX", declaringType := "T", returnType := "boolean",
               parameterTypes := ["int"] } := by cbv
  have hm : MergesTwins (managed {} {} {}).hierarchy (managed {} {} {}).types
      parameterizedTwin.methods "X"
      { name := "getX", declaringType := "T", returnType := "boolean" } :=
    { wellFormed := by cbv
      plain := ⟨{ name := "getX", declaringType := "T", returnType := "boolean" }, by cbv, by cbv⟩
      twin := ⟨_, ht, by cbv⟩
      chosen := by cbv
      parameterless := rfl }
  obtain ⟨p, hp, -, hmem⟩ := exists_property_of_mergesTwins hm ht
  exact absurd (h p hp _ hmem) (by decide)

/-! ## Booleans -/

/-- **When `is` means boolean.** Under every policy, all bound properties with an `is` getter have a
boolean `valueType` exactly if, wherever `MergesTwins` holds and the most specific getter of all is
an `is` getter, it returns a boolean. -/
theorem is_getters_boolean_iff (x : Extractor) (m : MethodSet) :
    (∀ p ∈ (x.extract m).properties,
        (∃ g ∈ p.getterBindings, ∃ rest, g.name = GetterKind.is.text ++ rest) →
          x.types.isBoolean p.valueType = true) ↔
      ∀ residue top, MergesTwins x.hierarchy x.types m.methods residue top →
        top.name = getterName .is residue → x.types.isBoolean top.returnType = true := by
  constructor
  · intro h residue top hm _
    obtain ⟨twin, ht, -⟩ := hm.twin
    obtain ⟨p, hp, hvalue, hmem⟩ := exists_property_of_mergesTwins hm ht
    have hname := (mem_of_mem_twinGetters (TypeHierarchy.mem_of_mostSpecific? ht)).2
    rw [← hvalue]
    exact h p hp ⟨twin, hmem, residue, hname⟩
  · rintro h p hp ⟨g, hg, rest, hname⟩
    obtain ⟨residue, getters, a, hbinds, ha, rfl⟩ := (x.mem_extract_properties_iff m).1 hp
    have hmem : g ∈ getters := Accessor.getters_subset ha hg
    have htop := Accessor.mostSpecific?_eq ha
    show x.types.isBoolean a.mostSpecific.returnType = true
    cases hbinds with
    | plain _ _ _ =>
      -- A `get` getter does not start with `is`.
      have hget := (mem_plainGetters.1 hmem).2.1
      rw [hname] at hget
      exact absurd (getterName_inj.1 hget).1 (by decide)
    | merged merges =>
      obtain rfl := Option.some.inj (merges.chosen.symm.trans htop)
      obtain ⟨primary, hp, hbool⟩ := merges.plain
      rcases TypeHierarchy.mostSpecific?_append_eq_or hp htop with heq | htwin
      · rw [heq]
        exact hbool
      · exact h residue _ merges (mem_of_mem_twinGetters htwin).2
    | twin _ _ chosen _ boolean =>
      obtain rfl := Option.some.inj (chosen.symm.trans htop)
      exact boolean

/-- Two unrelated supertypes `A` and `B` of `T`, one of them with a supertype `P` of its own. -/
def unrelatedSupertypes : Extractor :=
  managed {} {} (.ofDeclarations [("T", ["A", "B"]), ("B", ["P"])])

/-- A boolean getter of the topmost type `P`, and two twins of which only that of `A`, which cannot
be compared with it, is boolean. -/
def unrelatedTwins : MethodSet where
  target := { name := "T", supertypes := ["A", "B"] }
  methods :=
    [{ name := "isX", declaringType := "A", returnType := "boolean" },
      { name := "isX", declaringType := "B", returnType := "Object" },
      { name := "getX", declaringType := "P", returnType := "boolean" }]

/-- **The property of `unrelatedTwins` has `is` getters and the type of one that is not
boolean.** -/
theorem unrelatedTwins_bound :
    ¬ ∀ p ∈ (unrelatedSupertypes.extract unrelatedTwins).properties,
      (∃ g ∈ p.getterBindings, ∃ rest, g.name = GetterKind.is.text ++ rest) →
        unrelatedSupertypes.types.isBoolean p.valueType = true := by
  intro h
  -- Among the twins the first is kept, but after the `get` getter the second is more specific.
  have ht : unrelatedSupertypes.hierarchy.mostSpecific? (twinGetters unrelatedTwins.methods "X") =
      some { name := "isX", declaringType := "A", returnType := "boolean" } := by cbv
  have hm : MergesTwins unrelatedSupertypes.hierarchy unrelatedSupertypes.types
      unrelatedTwins.methods "X" { name := "isX", declaringType := "B", returnType := "Object" } :=
    { wellFormed := by cbv
      plain := ⟨{ name := "getX", declaringType := "P", returnType := "boolean" }, by cbv, by cbv⟩
      twin := ⟨_, ht, by cbv⟩
      chosen := by cbv
      parameterless := rfl }
  obtain ⟨p, hp, hvalue, hmem⟩ := exists_property_of_mergesTwins hm ht
  have hobject : unrelatedSupertypes.types.isBoolean "Object" = false := by decide
  have hbool := h p hp ⟨_, hmem, "X", by decide⟩
  rw [hvalue, hobject] at hbool
  exact absurd hbool (by decide)

end Extractor

end AccessorSchema
