import AccessorSchema.Proofs.WellDeclared

/-!
# A property depends on its accessors

Groups are settled together if one is the `is` twin of the other, setters are looked up by name, and a
group that was settled with another is passed over later. All these names share a residue, so that no
method has a part in a property of another residue:

* **`BoundProperty.eq_of_mem_iff`** — bound properties have one order, whatever bound them;
* **`BindsGetters.transfer`** — what binds a residue are the most specific getters of either kind and of
  both;
* **`MethodSet.accessorsOf`** — the methods of a type that are named after a residue;
* **`Extractor.properties_local`** — they make the properties of the residue, alone or among others.
-/

namespace AccessorSchema

/-! ## One order -/

namespace BoundProperty

/-- `Precedes p q`: the `smallestGetterName?` of `p` is smaller than that of `q`. -/
def Precedes (p q : BoundProperty) : Prop :=
  ∃ name name', p.smallestGetterName? = some name ∧ q.smallestGetterName? = some name' ∧ name < name'

/-- No two properties are such that each `Precedes` the other. -/
theorem Precedes.asymm {p q : BoundProperty} (hpq : p.Precedes q) : ¬ q.Precedes p := by
  obtain ⟨name, name', hp, hq, hlt⟩ := hpq
  rintro ⟨_, _, hq', hp', hlt'⟩
  obtain rfl := Option.some.inj (hp.symm.trans hp')
  obtain rfl := Option.some.inj (hq.symm.trans hq')
  exact String.lt_asymm hlt hlt'

/-- **Lists of properties in the order `Precedes` are the same if they have the same members.** -/
theorem eq_of_mem_iff {l l' : List BoundProperty} (hl : l.Pairwise Precedes)
    (hl' : l'.Pairwise Precedes) (h : ∀ p, p ∈ l ↔ p ∈ l') : l = l' :=
  eq_of_pairwise_asymm (fun _ _ hpq => hpq.asymm) hl hl' h

end BoundProperty

/-! ## What binds a residue -/

/-- **`BindsGetters` depends on the choices among the getters**: where the most specific of
`plainGetters`, of `twinGetters` and of both are the same, the getters there bind the residue as
well. -/
theorem BindsGetters.transfer {h : TypeHierarchy} {types : TypeSettings}
    {methods getters : List Method} {residue : String}
    (hbinds : BindsGetters h types methods residue getters) (methods' : List Method)
    (hplain : h.mostSpecific? (plainGetters methods' residue) =
      h.mostSpecific? (plainGetters methods residue))
    (htwin : h.mostSpecific? (twinGetters methods' residue) =
      h.mostSpecific? (twinGetters methods residue))
    (hboth : h.mostSpecific? (plainGetters methods' residue ++ twinGetters methods' residue) =
      h.mostSpecific? (plainGetters methods residue ++ twinGetters methods residue)) :
    BindsGetters h types methods' residue
      (plainGetters methods' residue ++ twinGetters methods' residue) := by
  have hplain_nil : plainGetters methods' residue = [] ↔ plainGetters methods residue = [] := by
    rw [← TypeHierarchy.mostSpecific?_eq_none (h := h), hplain, TypeHierarchy.mostSpecific?_eq_none]
  have htwin_nil : twinGetters methods' residue = [] ↔ twinGetters methods residue = [] := by
    rw [← TypeHierarchy.mostSpecific?_eq_none (h := h), htwin, TypeHierarchy.mostSpecific?_eq_none]
  -- Each case asks for the choices only, and for whether there are any getters to choose from.
  cases hbinds with
  | plain wellFormed some alone =>
    rw [htwin_nil.2 alone, List.append_nil]
    exact .plain wellFormed (mt hplain_nil.1 some) (htwin_nil.2 alone)
  | merged merges =>
    exact .merged
      { wellFormed := merges.wellFormed
        plain := hplain ▸ merges.plain
        twin := htwin ▸ merges.twin
        chosen := hboth.trans merges.chosen
        parameterless := merges.parameterless }
  | twin wellFormed alone chosen parameterless boolean =>
    rw [hplain_nil.2 alone, List.nil_append]
    exact .twin wellFormed (hplain_nil.2 alone) (htwin.trans chosen) parameterless boolean

/-- **The getters of a residue bind it wherever they are all there**, that is where `methodsNamed`
agrees for both kinds. -/
theorem BindsGetters.of_methodsNamed_eq {h : TypeHierarchy} {types : TypeSettings}
    {methods methods' getters : List Method} {residue : String}
    (hbinds : BindsGetters h types methods residue getters)
    (hsame : ∀ kind, methodsNamed (getterName kind residue) methods' =
      methodsNamed (getterName kind residue) methods) :
    BindsGetters h types methods' residue getters := by
  have hplain : plainGetters methods' residue = plainGetters methods residue := by
    rw [plainGetters, plainGetters, hsame]
  have htwin : twinGetters methods' residue = twinGetters methods residue := by
    rw [twinGetters, twinGetters, hsame]
  have hbinds' := hbinds.transfer methods' (by rw [hplain]) (by rw [htwin]) (by rw [hplain, htwin])
  rwa [hplain, htwin, ← hbinds.eq_append] at hbinds'

/-! ## Accessors of a residue -/

/-- `accessorsOf m residue`: the methods of `m` that are named like getters and setters of the
`residue`. -/
def MethodSet.accessorsOf (m : MethodSet) (residue : String) : MethodSet where
  target := m.target
  methods := m.methods.filter
    (·.name ∈ [getterName .get residue, getterName .is residue, setterName residue])

section

variable {m : MethodSet} {residue : String}

/-- Among `accessorsOf` a residue, all methods that are named after it remain. -/
theorem methodsNamed_accessorsOf {name : String}
    (hname : name ∈ [getterName .get residue, getterName .is residue, setterName residue]) :
    methodsNamed name (m.accessorsOf residue).methods = methodsNamed name m.methods :=
  methodsNamed_filter
    (· ∈ [getterName .get residue, getterName .is residue, setterName residue])
    (decide_eq_true hname) m.methods

/-- **The same getters bind the residue** among `accessorsOf` it and among all methods. -/
theorem bindsGetters_accessorsOf_iff {h : TypeHierarchy} {types : TypeSettings}
    {getters : List Method} :
    BindsGetters h types (m.accessorsOf residue).methods residue getters ↔
      BindsGetters h types m.methods residue getters := by
  have hsame : ∀ kind, methodsNamed (getterName kind residue) (m.accessorsOf residue).methods =
      methodsNamed (getterName kind residue) m.methods := by
    intro kind
    cases kind <;> exact methodsNamed_accessorsOf (by simp)
  constructor
  · exact fun hbinds => hbinds.of_methodsNamed_eq fun kind => (hsame kind).symm
  · exact fun hbinds => hbinds.of_methodsNamed_eq hsame

/-- No other residue is bound by `accessorsOf` a residue. -/
theorem BindsGetters.eq_of_accessorsOf {h : TypeHierarchy} {types : TypeSettings}
    {getters : List Method} {r : String}
    (hbinds : BindsGetters h types (m.accessorsOf residue).methods r getters) : r = residue := by
  obtain ⟨d, hd⟩ := List.exists_mem_of_ne_nil _ hbinds.ne_nil
  obtain ⟨hmem, kind, hkind⟩ := hbinds.named hd
  have hnames := of_decide_eq_true (List.mem_filter.1 hmem).2
  simp only [List.mem_cons, List.not_mem_nil, or_false, hkind] at hnames
  rcases hnames with hname | hname | hname
  · exact (getterName_inj.1 hname).2
  · exact (getterName_inj.1 hname).2
  · exact absurd hname (getterName_ne_setterName kind r residue)

end

/-! ## Extraction -/

namespace Extractor

variable (x : Extractor) (m : MethodSet) (residue : String)

/-- The property that `propertyOf` makes looks for a setter of its residue only. -/
theorem propertyOf_accessorsOf (getter : Accessor) :
    (x.binder (m.accessorsOf residue)).propertyOf residue getter =
      (x.binder m).propertyOf residue getter := by
  have hsetter : (x.binder (m.accessorsOf residue)).setterOf residue =
      (x.binder m).setterOf residue := by
    rw [Binder.setterOf_eq (x.binder_groups _), Binder.setterOf_eq (x.binder_groups _),
      methodsNamed_accessorsOf (by simp)]
    rfl
  rw [Binder.propertyOf, Binder.propertyOf, hsetter]
  rfl

/-- **`accessorsOf` a residue make its properties**, alone as well as among other methods. -/
theorem mem_properties_accessorsOf_iff {p : BoundProperty} :
    p ∈ (x.extract (m.accessorsOf residue)).properties ↔
      p ∈ (x.extract m).properties ∧ p.HasResidue residue := by
  rw [mem_extract_properties_iff, mem_extract_properties_iff]
  constructor
  · rintro ⟨r, getters, a, hbinds, ha, rfl⟩
    obtain rfl := hbinds.eq_of_accessorsOf
    rw [propertyOf_accessorsOf]
    have hbinds := bindsGetters_accessorsOf_iff.1 hbinds
    exact ⟨⟨r, getters, a, hbinds, ha, rfl⟩, hbinds.hasResidue ha _⟩
  · rintro ⟨⟨r, getters, a, hbinds, ha, rfl⟩, hresidue⟩
    obtain rfl := (hbinds.hasResidue ha _).unique hresidue
    exact ⟨r, getters, a, bindsGetters_accessorsOf_iff.2 hbinds, ha,
      (x.propertyOf_accessorsOf m r a).symm⟩

/-- **A property depends on the accessors of its residue alone.** Under every policy, the properties
that `HasResidue` selects are those that `accessorsOf` the residue make by themselves, and methods
of other names can join or leave without any effect on them. -/
theorem properties_local :
    (x.extract m).properties.filter (·.HasResidue residue) =
        (x.extract (m.accessorsOf residue)).properties ∧
      ∀ m' : MethodSet, m'.accessorsOf residue = m.accessorsOf residue →
        (x.extract m').properties.filter (·.HasResidue residue) =
          (x.extract m).properties.filter (·.HasResidue residue) := by
  have halone : ∀ m : MethodSet, (x.extract m).properties.filter (·.HasResidue residue) =
      (x.extract (m.accessorsOf residue)).properties := by
    intro m
    refine BoundProperty.eq_of_mem_iff ((x.pairwise_smallestGetterName? m).filter _)
      (x.pairwise_smallestGetterName? _) fun p => ?_
    rw [mem_properties_accessorsOf_iff, List.mem_filter, decide_eq_true_eq]
  refine ⟨halone m, fun m' hsame => ?_⟩
  rw [halone, halone, hsame]

/-- Boolean twins of the residue `X` with a setter. -/
def twinsAlone : MethodSet where
  target := { name := "T" }
  methods :=
    [{ name := "isX", declaringType := "T", returnType := "boolean" },
      { name := "getX", declaringType := "T", returnType := "boolean" },
      { name := "setX", declaringType := "T", returnType := "void", parameterTypes := ["boolean"] }]

/-- The methods of `twinsAlone` among a getter of the property name, a setter of another residue
that goes on after `X`, a twin without counterpart, and two overloads of an ordinary method. -/
def twinsAmongOthers : MethodSet where
  target := { name := "T" }
  methods :=
    [{ name := "isX", declaringType := "T", returnType := "boolean" },
      { name := "getx", declaringType := "T", returnType := "String" },
      { name := "getX", declaringType := "T", returnType := "boolean" },
      { name := "setXs", declaringType := "T", returnType := "void", parameterTypes := ["int"] },
      { name := "isY", declaringType := "T", returnType := "boolean" },
      { name := "run", declaringType := "T", returnType := "void" },
      { name := "run", declaringType := "T", returnType := "void", parameterTypes := ["int"] },
      { name := "setX", declaringType := "T", returnType := "void", parameterTypes := ["boolean"] }]

/-- The property of the twins is the same in `twinsAmongOthers` and in `twinsAlone`, and it is
there. -/
theorem twinsAmongOthers_local :
    twinsAmongOthers.accessorsOf "X" = twinsAlone.accessorsOf "X" ∧
      ((managed {} {} {}).extract twinsAmongOthers).properties.filter (·.HasResidue "X") =
        ((managed {} {} {}).extract twinsAlone).properties.filter (·.HasResidue "X") ∧
      (((managed {} {} {}).extract twinsAlone).properties.filter (·.HasResidue "X")).map
        BoundProperty.name = ["x"] :=
  have hsame : twinsAmongOthers.accessorsOf "X" = twinsAlone.accessorsOf "X" := by cbv
  ⟨hsame, (properties_local (managed {} {} {}) twinsAlone "X").2 twinsAmongOthers hsame, by cbv⟩

end Extractor

end AccessorSchema
