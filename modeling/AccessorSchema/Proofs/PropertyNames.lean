import AccessorSchema.Proofs.GetterShape
import AccessorSchema.Proofs.LetterCase

/-!
# Names of bound properties

Every residue makes one property at most, and the property takes its name from the residue. Names
are therefore different as long as no two bound residues differ in case:

* **`Binder.bind_properties_eq`** — the bound properties, group by group;
* **`Binder.pairwise_bind_properties`** — they stand in the order of their groups, so that any two of
  them come of different residues;
* **`Extractor.property_names_nodup_iff`** — exactly when no two properties have one name.
-/

namespace AccessorSchema

/-- A property has one residue at most, in the sense of `HasResidue`. -/
theorem BoundProperty.HasResidue.unique {p : BoundProperty} {r r' : String} (h : p.HasResidue r)
    (h' : p.HasResidue r') : r = r' := by
  obtain ⟨g, hg⟩ := List.exists_mem_of_ne_nil _ h.1
  obtain ⟨kind, hname⟩ := h.2 g hg
  obtain ⟨kind', hname'⟩ := h'.2 g hg
  exact (getterName_inj.1 (hname.symm.trans hname')).2

/-- Residues with different values of `bindingName` are different. -/
theorem ne_of_bindingName_lt {methods : List Method} {r r' : String}
    (hlt : compare (bindingName methods r) (bindingName methods r') = .lt) : r ≠ r' := by
  rintro rfl
  rw [Std.ReflOrd.compare_self] at hlt
  exact absurd hlt (by decide)

namespace Binder

variable {b : Binder} {methods : List Method} (hb : b.groups = .ofMethods methods)

include hb

/-- **The properties of `bind`, group by group:** by increasing name, without the groups of
`absorbedNames`. -/
theorem bind_properties_eq :
    b.bind.properties =
      ((OrderedSet.ofList (methods.map Method.name)).toList.filter (· ∉ b.absorbedNames)).filterMap
        fun name => (b.settle (.ofMethods name methods)).property := by
  simp only [bind, outcomes, hb, AccessorGroups.ofMethods, List.filter_map, List.filterMap_map]
  rfl

/-- **The properties of `bind` stand in the order of `bindingName`**, and no two of them are bound
in one group. -/
theorem pairwise_bind_properties :
    b.bind.properties.Pairwise fun p p' => ∃ r getters a r' getters' a',
      compare (bindingName methods r) (bindingName methods r') = .lt ∧
        (BindsGetters b.hierarchy b.types methods r getters ∧
          Accessor.ofDeclarations? b.hierarchy getters = some a ∧ p = b.propertyOf r a) ∧
        (BindsGetters b.hierarchy b.types methods r' getters' ∧
          Accessor.ofDeclarations? b.hierarchy getters' = some a' ∧ p' = b.propertyOf r' a') := by
  rw [bind_properties_eq hb, List.pairwise_filterMap]
  have hincreasing := (OrderedSet.ofList (methods.map Method.name)).increasing
  refine (hincreasing.filter _).imp_of_mem fun {name name'} hname hname' hlt p hp p' hp' => ?_
  rw [List.mem_filter, decide_eq_true_eq] at hname hname'
  obtain ⟨r, rfl, getters, a, hbinds, ha, hp⟩ := exists_bindsGetters_of_settle hb
    (OrderedSet.mem_ofList.1 hname.1) hname.2 hp
  obtain ⟨r', rfl, getters', a', hbinds', ha', hp'⟩ := exists_bindsGetters_of_settle hb
    (OrderedSet.mem_ofList.1 hname'.1) hname'.2 hp'
  exact ⟨r, getters, a, r', getters', a', hlt, ⟨hbinds, ha, hp⟩, hbinds', ha', hp'⟩

end Binder

namespace Extractor

variable {x : Extractor} {m : MethodSet}

/-- A residue for which `BindsGetters` holds makes a property of its name, with getters named after
it. -/
theorem exists_property_of_bindsGetters {residue : String} {getters : List Method}
    (hbinds : BindsGetters x.hierarchy x.types m.methods residue getters) :
    ∃ p ∈ (x.extract m).properties, p.name = decapitalize residue ∧ p.HasResidue residue := by
  obtain ⟨a, ha⟩ := Accessor.exists_ofDeclarations? x.hierarchy hbinds.ne_nil
  have hprop := (x.mem_extract_properties_iff m).2 ⟨residue, getters, a, hbinds, ha, rfl⟩
  exact ⟨_, hprop, rfl, hbinds.hasResidue ha _⟩

/-- **When property names are unique.** Under every policy, no two bound properties have one name
exactly if no two residues for which `BindsGetters` holds `DifferInCase`. -/
theorem property_names_nodup_iff (x : Extractor) (m : MethodSet) :
    ((x.extract m).properties.map BoundProperty.name).Nodup ↔
      ∀ r r' getters getters', BindsGetters x.hierarchy x.types m.methods r getters →
        BindsGetters x.hierarchy x.types m.methods r' getters' → ¬ DifferInCase r r' := by
  constructor
  · intro hnodup r r' getters getters' hbinds hbinds' hcase
    obtain ⟨p, hp, hname, hresidue⟩ := exists_property_of_bindsGetters hbinds
    obtain ⟨p', hp', hname', hresidue'⟩ := exists_property_of_bindsGetters hbinds'
    -- Two residues that differ in case would share a name, and thus a property.
    have hnames : p.name = p'.name := by rw [hname, hname', hcase.decapitalize_eq]
    obtain rfl : p = p' := List.inj_on_of_nodup_map hnodup hp hp' hnames
    exact hcase.ne (hresidue.unique hresidue')
  · intro h
    rw [List.Nodup, List.pairwise_map]
    refine (Binder.pairwise_bind_properties (x.binder_groups m)).imp fun {p p'} hpp heq => ?_
    obtain ⟨r, getters, a, r', getters', a', hlt, ⟨hbinds, -, rfl⟩, hbinds', -, rfl⟩ := hpp
    -- Properties of one name have residues that are equal or differ in case.
    rcases decapitalize_eq_iff.1 heq with hrr | hcase
    · exact ne_of_bindingName_lt hlt hrr
    · exact h r r' getters getters' hbinds hbinds' hcase

/-- Two getters whose residues are the letter `K` and the sign for kelvin, whose lowercase form is
that of `K`. -/
def kelvinSign : MethodSet where
  target := { name := "T" }
  methods :=
    [{ name := "getK", declaringType := "T", returnType := "int" },
      { name := "get\u212A", declaringType := "T", returnType := "String" }]

/-- **The two properties of `kelvinSign` have one name.** -/
theorem kelvinSign_names :
    ¬ (((managed {} {} {}).extract kelvinSign).properties.map BoundProperty.name).Nodup := by
  have hnames : ((managed {} {} {}).extract kelvinSign).properties.map BoundProperty.name =
      ["k", "k"] := by cbv
  rw [hnames]
  decide

end Extractor

end AccessorSchema
