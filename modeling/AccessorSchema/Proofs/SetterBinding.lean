import AccessorSchema.Proofs.Locality

/-!
# Which setters managed structs keep

A property looks for its setter by name, asks about the most specific method of that name, and is bound
with or without it. Under the policy for managed structs the answer depends on the method and on the
property alone:

* **`BoundProperty.HasSetter`** — the method of the setter's name that suits the property;
* **`Binder.setterBinding_propertyOf_eq_some_iff`** — that method is bound, and no other;
* **`Binder.exists_invalidSetter`** — a setter that does not suit is reported;
* **`MethodSet.without`** — a property whose setter is refused is bound as if there was none;
* **`Extractor.managed_setterBinding`** — all of this for the properties of an extraction.
-/

namespace AccessorSchema

/-- **`HasSetter p h types methods residue s`: the method `s` is the setter of the property `p`.**
It is the most specific of the methods of the `setterName`, takes the `valueType` and nothing else,
returns the type that setters return, and has no implementation unless the property is unmanaged. -/
structure BoundProperty.HasSetter (p : BoundProperty) (h : TypeHierarchy) (types : TypeSettings)
    (methods : List Method) (residue : String) (s : Method) : Prop where
  chosen : h.mostSpecific? (methodsNamed (setterName residue) methods) = some s
  parameters : s.parameterTypes = [p.valueType]
  void : types.isVoid s.returnType = true
  unimplemented : p.state = .managed → s.isConcrete = false

/-! ## The verdict on a setter -/

/-- **A setter with `setterProblems` is refused**, and each of them is an error about that
setter. -/
theorem validateSetter_of_mem_setterProblems {types : TypeSettings} {valueType : TypeName}
    {getter setter : Accessor} {reason : String} (subject : TypeName)
    (hreason : reason ∈ setterProblems types valueType getter.mostSpecific setter.mostSpecific) :
    ((Policy.managed types).validateSetter subject valueType getter setter).1 = .reject ∧
      { severity := .error, kind := .invalidSetter, subject, methods := [setter.mostSpecific],
        message := invalidAccessorMessage setter.mostSpecific reason : Diagnostic } ∈
        ((Policy.managed types).validateSetter subject valueType getter setter).2.diagnostics := by
  simp only [Policy.managed]
  cases hproblems : setterProblems types valueType getter.mostSpecific setter.mostSpecific with
  | nil =>
    rw [hproblems] at hreason
    exact absurd hreason List.not_mem_nil
  | cons first rest =>
    rw [hproblems] at hreason
    refine ⟨rfl, List.mem_flatMap.2 ?_⟩
    exact ⟨_, List.mem_map_of_mem hreason, List.mem_singleton_self _⟩

namespace Binder

variable {b : Binder} {types : TypeSettings} {methods : List Method} {residue : String}
  {getter setter : Accessor} {s : Method} (hpolicy : b.policy = .managed types)

include hpolicy

/-- A setter with `setterProblems` is not kept by `bindSetter`. -/
theorem bindSetter_eq_none_of_mem_setterProblems {valueType : TypeName} {reason : String}
    (hreason : reason ∈ setterProblems types valueType getter.mostSpecific setter.mostSpecific) :
    (b.bindSetter valueType getter (some setter)).1 = none := by
  have hreject := (validateSetter_of_mem_setterProblems b.subject hreason).1
  rw [← hpolicy] at hreject
  rcases hasked : b.policy.validateSetter b.subject valueType getter setter with ⟨verdict, j⟩
  rw [hasked] at hreject
  obtain rfl : verdict = .reject := hreject
  simp only [bindSetter, hasked]

/-- The `state` of a property is that of its most specific getter. -/
theorem state_propertyOf_eq_managed_iff :
    (b.propertyOf residue getter).state = .managed ↔ getter.mostSpecific.isConcrete = false := by
  have hstate : (b.propertyOf residue getter).state =
      if getter.mostSpecific.isConcrete then .unmanaged else .managed := by
    rw [propertyOf, hpolicy]
    rfl
  rw [hstate]
  cases getter.mostSpecific.isConcrete with
  | true => simp
  | false => simp

/-- **A setter has no `setterProblems` exactly if the property `HasSetter` it.** -/
theorem hasSetter_propertyOf_iff
    (hmade : Accessor.ofDeclarations? b.hierarchy (methodsNamed (setterName residue) methods) =
      some setter) :
    (b.propertyOf residue getter).HasSetter b.hierarchy types methods residue s ↔
      setter.mostSpecific = s ∧
        setterProblems types getter.mostSpecific.returnType getter.mostSpecific s = [] := by
  have hchosen := Accessor.mostSpecific?_eq hmade
  -- A property that is not managed has a getter with an implementation.
  have hconcrete : ((b.propertyOf residue getter).state = .managed → s.isConcrete = false) ↔
      (s.isConcrete = true → getter.mostSpecific.isConcrete = true) := by
    rw [state_propertyOf_eq_managed_iff hpolicy]
    cases getter.mostSpecific.isConcrete <;> cases s.isConcrete <;> decide
  rw [setterProblems_eq_nil_iff, ← hconcrete]
  constructor
  · intro hsetter
    have heq : setter.mostSpecific = s := Option.some.inj (hchosen.symm.trans hsetter.chosen)
    exact ⟨heq, hsetter.parameters, hsetter.void, hsetter.unimplemented⟩
  · rintro ⟨rfl, hparameters, hvoid, hunimplemented⟩
    exact ⟨hchosen, hparameters, hvoid, hunimplemented⟩

variable (hb : b.groups = .ofMethods methods)

include hb

/-- **A setter is bound exactly if the property `HasSetter` it.** -/
theorem setterBinding_propertyOf_eq_some_iff :
    (b.propertyOf residue getter).setterBinding = some s ↔
      (b.propertyOf residue getter).HasSetter b.hierarchy types methods residue s := by
  have hbinding : (b.propertyOf residue getter).setterBinding =
      (b.bindSetter getter.mostSpecific.returnType getter (b.setterOf residue)).1 := rfl
  rw [hbinding, setterOf_eq hb]
  cases hmade : Accessor.ofDeclarations? b.hierarchy (methodsNamed (setterName residue) methods) with
  | none =>
    -- There is no method to ask about.
    refine iff_of_false (by simp [bindSetter]) fun hsetter => ?_
    have hne := TypeHierarchy.ne_nil_of_mostSpecific? hsetter.chosen
    obtain ⟨setter, hsome⟩ := Accessor.exists_ofDeclarations? b.hierarchy hne
    rw [hmade] at hsome
    exact absurd hsome (by simp)
  | some setter =>
    rw [hasSetter_propertyOf_iff hpolicy hmade]
    constructor
    · intro hsome
      obtain rfl := eq_of_bindSetter_eq_some hsome
      refine ⟨rfl, List.eq_nil_iff_forall_not_mem.2 fun reason hreason => ?_⟩
      rw [bindSetter_eq_none_of_mem_setterProblems hpolicy hreason] at hsome
      exact absurd hsome (by simp)
    · rintro ⟨rfl, hproblems⟩
      simp only [bindSetter, hpolicy, validateSetter_of_setterProblems_eq_nil hproblems]

/-- **Where methods of the `setterName` do not suit, the most specific of them is reported** as
`invalidSetter`. -/
theorem exists_invalidSetter (hne : methodsNamed (setterName residue) methods ≠ [])
    (hnone : ¬ ∃ s, (b.propertyOf residue getter).HasSetter b.hierarchy types methods residue s) :
    ∃ s, b.hierarchy.mostSpecific? (methodsNamed (setterName residue) methods) = some s ∧
      ∃ d ∈ (b.boundOutcome residue getter).journal.diagnostics,
        d.isError = true ∧ d.kind = .invalidSetter ∧ d.methods = [s] := by
  obtain ⟨setter, hmade⟩ := Accessor.exists_ofDeclarations? b.hierarchy hne
  have hsetter : b.setterOf residue = some setter := by rw [setterOf_eq hb, hmade]
  -- Without a problem the most specific method would suit.
  have hproblems : setterProblems types getter.mostSpecific.returnType getter.mostSpecific
      setter.mostSpecific ≠ [] := fun hnil =>
    hnone ⟨setter.mostSpecific, (hasSetter_propertyOf_iff hpolicy hmade).2 ⟨rfl, hnil⟩⟩
  obtain ⟨reason, hreason⟩ := List.exists_mem_of_ne_nil _ hproblems
  have hreport := (validateSetter_of_mem_setterProblems b.subject hreason).2
  rw [← hpolicy, ← bindSetter_journal, ← hsetter] at hreport
  exact ⟨setter.mostSpecific, Accessor.mostSpecific?_eq hmade, _,
    List.mem_append_right _ hreport, rfl, rfl, rfl⟩

end Binder

/-! ## Properties without setter -/

/-- `without m name`: the methods of a type that are not of the `name`. -/
def MethodSet.without (m : MethodSet) (name : String) : MethodSet where
  target := m.target
  methods := m.methods.filter (·.name ≠ name)

section

variable {m : MethodSet} {name : String}

/-- No method of the `name` is left in `m.without name`. -/
theorem methodsNamed_without_self : methodsNamed name (m.without name).methods = [] := by
  rw [methodsNamed_eq_nil_iff]
  intro hname
  obtain ⟨d, hd, heq⟩ := List.mem_map.1 hname
  exact absurd heq (of_decide_eq_true (List.mem_filter.1 hd).2)

/-- `BindsGetters` holds as if there were no setters. -/
theorem BindsGetters.without_setter {h : TypeHierarchy} {types : TypeSettings}
    {getters : List Method} {residue : String}
    (hbinds : BindsGetters h types m.methods residue getters) :
    BindsGetters h types (m.without (setterName residue)).methods residue getters := by
  refine hbinds.of_methodsNamed_eq fun kind => ?_
  have hne : getterName kind residue ≠ setterName residue :=
    getterName_ne_setterName kind residue residue
  exact methodsNamed_filter (· ≠ setterName residue) (decide_eq_true hne) m.methods

end

namespace Extractor

variable (x : Extractor) (m : MethodSet) {p : BoundProperty} {residue : String}

/-- **A property whose `setterBinding` is `none` is bound without the methods of the `setterName` as
well.** -/
theorem mem_properties_without_setter (hp : p ∈ (x.extract m).properties)
    (hresidue : p.HasResidue residue) (hnone : p.setterBinding = none) :
    p ∈ (x.extract (m.without (setterName residue))).properties := by
  obtain ⟨r, getters, a, hbinds, ha, rfl⟩ := (x.mem_extract_properties_iff m).1 hp
  obtain rfl : r = residue := (hbinds.hasResidue ha _).unique hresidue
  refine (x.mem_extract_properties_iff _).2 ⟨r, getters, a, hbinds.without_setter, ha, ?_⟩
  have hsetter : (x.binder (m.without (setterName r))).setterOf r = none := by
    rw [Binder.setterOf_eq (x.binder_groups _), methodsNamed_without_self]
    rfl
  -- Only the setter could tell the two properties apart.
  have hbinding : ((x.binder m).bindSetter a.mostSpecific.returnType a
      ((x.binder m).setterOf r)).1 = none := hnone
  rw [Binder.propertyOf, Binder.propertyOf, hsetter, hbinding]
  rfl

/-- What `boundOutcome` reports of getters for which `BindsGetters` holds is among the `diagnostics`
of `extract`. -/
theorem mem_diagnostics_of_mem_boundOutcome {getters : List Method} {a : Accessor} {d : Diagnostic}
    (hbinds : BindsGetters x.hierarchy x.types m.methods residue getters)
    (ha : Accessor.ofDeclarations? x.hierarchy getters = some a)
    (hd : d ∈ ((x.binder m).boundOutcome residue a).journal.diagnostics) :
    d ∈ (x.extract m).diagnostics := by
  have hsettles := Binder.settles_of_bindsGetters (x.binder_groups m) hbinds ha
  have hout : (x.binder m).settle (.ofMethods (bindingName m.methods residue) m.methods) ∈
      (x.binder m).outcomes :=
    (Binder.mem_outcomes_iff (x.binder_groups m)).2 ⟨_, hbinds.bindingName_mem,
      Binder.bindingName_not_mem_absorbedNames (x.binder_groups m) residue, rfl⟩
  have hbind : d ∈ (x.binder m).bind.journal.diagnostics :=
    List.mem_flatMap.2 ⟨_, List.mem_map_of_mem hout, hsettles.mem_diagnostics_iff.2 (.inr hd)⟩
  rw [diagnostics_extract]
  exact List.mem_append_left _ (List.mem_append_left _ (List.mem_append_right _ hbind))

/-- **Under the policy `managed` a property is writable exactly if its setter suits it.** The
`setterBinding` is the method that the property `HasSetter`: the most specific method of the
`setterName`, provided that it takes the value type and nothing else, returns the type that setters
return, and has no implementation if the property is managed. If there are methods of that name and
the most specific one is not like this, the property is bound as if there were none, and that method
is reported. -/
theorem managed_setterBinding (hpolicy : x.policy = .managed x.types)
    (hp : p ∈ (x.extract m).properties) (hresidue : p.HasResidue residue) :
    (∀ s, p.setterBinding = some s ↔ p.HasSetter x.hierarchy x.types m.methods residue s) ∧
      ((∃ d ∈ m.methods, d.name = setterName residue) →
        (¬ ∃ s, p.HasSetter x.hierarchy x.types m.methods residue s) →
          p.setterBinding = none ∧
            p ∈ (x.extract (m.without (setterName residue))).properties ∧
            ∃ s, x.hierarchy.mostSpecific? (methodsNamed (setterName residue) m.methods) = some s ∧
              ∃ d ∈ (x.extract m).diagnostics,
                d.isError = true ∧ d.kind = .invalidSetter ∧ d.methods = [s]) := by
  obtain ⟨r, getters, a, hbinds, ha, heq⟩ := (x.mem_extract_properties_iff m).1 hp
  obtain rfl : r = residue := by
    rw [heq] at hresidue
    exact (hbinds.hasResidue ha _).unique hresidue
  have hiff : ∀ s, p.setterBinding = some s ↔
      p.HasSetter x.hierarchy x.types m.methods r s := fun s => by
    rw [heq]
    exact Binder.setterBinding_propertyOf_eq_some_iff hpolicy (x.binder_groups m)
  refine ⟨hiff, ?_⟩
  -- There are methods of the setter's name, so one of them was looked at and refused.
  rintro ⟨d, hd, hname⟩ hunsuited
  have hnone : p.setterBinding = none :=
    Option.eq_none_iff_forall_ne_some.2 fun s hs => hunsuited ⟨s, (hiff s).1 hs⟩
  have hne : methodsNamed (setterName r) m.methods ≠ [] :=
    List.ne_nil_of_mem (mem_methodsNamed.2 ⟨hd, hname⟩)
  rw [heq] at hunsuited
  obtain ⟨s, hs, report, hreport, hkind⟩ :=
    Binder.exists_invalidSetter hpolicy (x.binder_groups m) hne hunsuited
  exact ⟨hnone, x.mem_properties_without_setter m hp hresidue hnone, s, hs, report,
    x.mem_diagnostics_of_mem_boundOutcome m hbinds ha hreport, hkind⟩

/-- A property of `T` with a setter that takes more than the getter returns, and overloads the one
of the supertype `B`, which takes just that. -/
def widenedProperty : MethodSet where
  target := { name := "T", supertypes := ["B"] }
  methods :=
    [{ name := "getX", declaringType := "T", returnType := "String" },
      { name := "setX", declaringType := "T", returnType := "void", parameterTypes := ["Object"] },
      { name := "setX", declaringType := "B", returnType := "void", parameterTypes := ["String"] }]

/-- **The setter of `B` in `widenedProperty` would suit, but it is not the most specific one.** -/
theorem widenedProperty_readOnly :
    ∃ p ∈ ((managed {} {} (.ofDeclarations [("T", ["B"])])).extract widenedProperty).properties,
      p.HasResidue "X" ∧ p.setterBinding = none ∧ ∃ s, s.declaringType = "T" ∧
        ∃ d ∈ ((managed {} {} (.ofDeclarations [("T", ["B"])])).extract widenedProperty).diagnostics,
          d.isError = true ∧ d.kind = .invalidSetter ∧ d.methods = [s] := by
  let x : Extractor := managed {} {} (.ofDeclarations [("T", ["B"])])
  have hsome : ∃ d ∈ widenedProperty.methods, d.name = setterName "X" :=
    ⟨_, .tail _ (.head _), by cbv⟩
  have hvalue : (x.hierarchy.mostSpecific? (plainGetters widenedProperty.methods "X")).map
      Method.returnType = some "String" := by cbv
  have htop : (x.hierarchy.mostSpecific? (methodsNamed (setterName "X") widenedProperty.methods)).map
      (fun s => (s.declaringType, s.parameterTypes)) = some ("T", ["Object"]) := by cbv
  have hbinds : BindsGetters x.hierarchy x.types widenedProperty.methods "X"
      (plainGetters widenedProperty.methods "X") := .plain (by cbv) (by decide) (by decide)
  obtain ⟨a, ha⟩ := Accessor.exists_ofDeclarations? x.hierarchy hbinds.ne_nil
  have hp := (x.mem_extract_properties_iff widenedProperty).2 ⟨"X", _, a, hbinds, ha, rfl⟩
  have hresidue := hbinds.hasResidue ha (x.binder widenedProperty)
  obtain ⟨-, hrefused⟩ := managed_setterBinding x widenedProperty rfl hp hresidue
  rw [Accessor.mostSpecific?_eq ha] at hvalue
  -- The most specific setter takes an object, and the getter returns a string.
  have hunsuited : ¬ ∃ s, ((x.binder widenedProperty).propertyOf "X" a).HasSetter x.hierarchy x.types
      widenedProperty.methods "X" s := by
    rintro ⟨s, hs⟩
    rw [hs.chosen] at htop
    have hobject : s.parameterTypes = ["Object"] := (Prod.mk.inj (Option.some.inj htop)).2
    have hstring : s.parameterTypes = ["String"] := by
      rw [hs.parameters]
      exact congrArg (fun t => [t]) (Option.some.inj hvalue)
    exact absurd (hobject.symm.trans hstring) (by decide)
  obtain ⟨hnone, -, s, hs, herror⟩ := hrefused hsome hunsuited
  rw [hs] at htop
  exact ⟨_, hp, hresidue, hnone, s, (Prod.mk.inj (Option.some.inj htop)).1, herror⟩

end Extractor

end AccessorSchema
