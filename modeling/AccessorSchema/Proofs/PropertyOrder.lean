import AccessorSchema.Proofs.PropertyContent

/-!
# The order of properties

Properties come in the order of the groups that bind them. A group takes the `is` twin of its
residue with it, and all `get` groups come before all `is` groups, so that neither twin nor setter is
looked at a second time.

* **`BoundProperty.Apart`** — two properties of different residues, with no accessor in common;
* `BoundProperty.smallestGetterName?` — the name that a property is found under, which is that of the
  group that binds it (`BindsGetters.smallestGetterName?_propertyOf`);
* `Extractor.pairwise_apart`, `Extractor.pairwise_smallestGetterName?` — what follows of any two bound
  properties;
* **`Extractor.properties_pairwise`** — any two properties are apart, and the smallest names of their
  getters increase along the list.
-/

namespace AccessorSchema

/-! ## Elements of lists -/

/-- In a list of which no two elements satisfy `P`, one that does makes `countP` one. -/
theorem countP_eq_one_of_pairwise {α : Type} {P : α → Bool} {l : List α}
    (hl : l.Pairwise fun a b => ¬ (P a = true ∧ P b = true)) {a : α} (ha : a ∈ l)
    (hP : P a = true) : l.countP P = 1 := by
  induction l with
  | nil => exact absurd ha List.not_mem_nil
  | cons b rest ih =>
    obtain ⟨hb, hrest⟩ := List.pairwise_cons.1 hl
    by_cases hPb : P b = true
    · -- The first element to satisfy the condition is the only one.
      have hnone : rest.countP P = 0 :=
        List.countP_eq_zero.2 fun c hc hPc => hb c hc ⟨hPb, hPc⟩
      rw [List.countP_cons_of_pos hPb, hnone]
    · rcases List.mem_cons.1 ha with rfl | harest
      · exact absurd hP hPb
      · rw [List.countP_cons_of_neg hPb]
        exact ih hrest harest

/-- **The first element of an `OrderedSet` is the smallest.** -/
theorem OrderedSet.head?_toList_eq_some {α : Type} [Ord α] {s : OrderedSet α} {a : α}
    (hmem : a ∈ s) (hleast : ∀ b ∈ s, b = a ∨ compare b a ≠ .lt) : s.toList.head? = some a := by
  obtain ⟨l, increasing⟩ := s
  have hmem : a ∈ l := hmem
  cases l with
  | nil => exact absurd hmem List.not_mem_nil
  | cons b rest =>
    show some b = some a
    rcases List.mem_cons.1 hmem with rfl | hrest
    · rfl
    · -- Any other head would be smaller.
      rcases hleast b List.mem_cons_self with rfl | hnot
      · rfl
      · exact absurd ((List.pairwise_cons.1 increasing).1 a hrest) hnot

/-! ## Smallest names -/

/-- **Every `get` getter comes before every `is` getter.** -/
theorem get_lt_is (r r' : String) : getterName .get r < getterName .is r' := by
  rw [String.lt_iff_toList_lt, getterName, getterName, String.toList_append, String.toList_append]
  exact List.cons_lt_cons_iff.2 (.inl (by decide))

namespace BoundProperty

/-- `smallestGetterName? p`: the smallest name that a getter of `p` has, in the order of code
points. -/
def smallestGetterName? (p : BoundProperty) : Option String :=
  (OrderedSet.ofList (p.getterBindings.map Method.name)).toList.head?

/-- A name that a getter has is the `smallestGetterName?` if none is smaller. -/
theorem smallestGetterName?_eq_some {p : BoundProperty} {name : String}
    (hmem : name ∈ p.getterBindings.map Method.name)
    (hleast : ∀ g ∈ p.getterBindings, g.name = name ∨ ¬ g.name < name) :
    p.smallestGetterName? = some name := by
  refine OrderedSet.head?_toList_eq_some (OrderedSet.mem_ofList.2 hmem) fun n hn => ?_
  obtain ⟨g, hg, rfl⟩ := List.mem_map.1 (OrderedSet.mem_ofList.1 hn)
  rw [ne_eq, compare_lt_iff_lt]
  exact hleast g hg

/-! ## Properties with no accessor in common -/

/-- **`Apart p q methods r r'`: two properties of different residues, with no accessor in
common.** -/
structure Apart (p q : BoundProperty) (methods : List Method) (r r' : String) : Prop where
  /-- The property `p` has the one residue `r`. -/
  residue : ∀ s, p.HasResidue s ↔ s = r
  /-- The property `q` has the one residue `r'`. -/
  residue' : ∀ s, q.HasResidue s ↔ s = r'
  residues_ne : r ≠ r'
  /-- No getters of `p` and `q` have one name. -/
  getterNames_disjoint :
    (p.getterBindings.map Method.name).Disjoint (q.getterBindings.map Method.name)
  /-- No method is among the `declarations` of both. -/
  declarations_disjoint : (p.declarations methods r).Disjoint (q.declarations methods r')
  /-- Setters are looked for under different names, by `setterName`. -/
  setterNames_ne : setterName r ≠ setterName r'
  /-- No setters of `p` and `q` have one name. -/
  setters_disjoint : ∀ s ∈ p.setterBinding, ∀ s' ∈ q.setterBinding, s.name ≠ s'.name

/-- `SetterNamed p residue`: the setter of `p` is named after the `residue`, if there is one. -/
def SetterNamed (p : BoundProperty) (residue : String) : Prop :=
  ∀ s ∈ p.setterBinding, s.name = setterName residue

/-- The `declarations` of a property are named after its residue. -/
theorem exists_name_of_mem_declarations {p : BoundProperty} {methods : List Method}
    {residue : String} {d : Method} (hd : d ∈ p.declarations methods residue) :
    ∃ kind, d.name = getterName kind residue := by
  obtain ⟨kind, -, hmem⟩ := List.mem_flatMap.1 hd
  by_cases hbound : getterName kind residue ∈ p.getterBindings.map Method.name
  · rw [if_pos hbound, declarationsOf_eq_unambiguous] at hmem
    exact ⟨kind, (mem_methodsNamed.1 (unambiguous_subset _ hmem)).2⟩
  · rw [if_neg hbound] at hmem
    exact absurd hmem List.not_mem_nil

/-- **Different residues keep properties `Apart`.** -/
theorem apart_of_ne {p q : BoundProperty} {r r' : String} (methods : List Method)
    (hp : p.HasResidue r) (hq : q.HasResidue r') (hps : p.SetterNamed r) (hqs : q.SetterNamed r')
    (hne : r ≠ r') : p.Apart q methods r r' where
  residue s := ⟨fun hs => hs.unique hp, fun hs => hs ▸ hp⟩
  residue' s := ⟨fun hs => hs.unique hq, fun hs => hs ▸ hq⟩
  residues_ne := hne
  getterNames_disjoint := by
    intro name hmem hmem'
    obtain ⟨g, hg, rfl⟩ := List.mem_map.1 hmem
    obtain ⟨g', hg', hname⟩ := List.mem_map.1 hmem'
    obtain ⟨kind, hkind⟩ := hp.2 g hg
    obtain ⟨kind', hkind'⟩ := hq.2 g' hg'
    -- A getter's name tells its residue.
    rw [hkind, hkind'] at hname
    exact hne (getterName_inj.1 hname).2.symm
  declarations_disjoint := by
    intro d hd hd'
    obtain ⟨kind, hkind⟩ := exists_name_of_mem_declarations hd
    obtain ⟨kind', hkind'⟩ := exists_name_of_mem_declarations hd'
    exact hne (getterName_inj.1 (hkind.symm.trans hkind')).2
  setterNames_ne := fun hname => hne (setterName_inj.1 hname)
  setters_disjoint := by
    intro s hs s' hs' hname
    rw [hps s hs, hqs s' hs'] at hname
    exact hne (setterName_inj.1 hname)

end BoundProperty

/-! ## Bound residues -/

/-- A setter that `propertyOf` binds is one of the methods of its name. -/
theorem Binder.setterNamed_propertyOf {b : Binder} {methods : List Method}
    (hb : b.groups = .ofMethods methods) (residue : String) (a : Accessor) :
    (b.propertyOf residue a).SetterNamed residue := by
  intro s hs
  have hsetter : (b.bindSetter a.mostSpecific.returnType a (b.setterOf residue)).1 = some s := hs
  rw [setterOf_eq hb] at hsetter
  cases hmade : Accessor.ofDeclarations? b.hierarchy (methodsNamed (setterName residue) methods) with
  | none =>
    rw [hmade] at hsetter
    exact absurd hsetter (by simp [bindSetter])
  | some setter =>
    -- What the policy accepts is the most specific setter, which is one of its name.
    have htop := TypeHierarchy.mem_of_mostSpecific? (Accessor.mostSpecific?_eq hmade)
    rw [hmade] at hsetter
    rw [eq_of_bindSetter_eq_some hsetter]
    exact (mem_methodsNamed.1 htop).2

namespace BindsGetters

variable {h : TypeHierarchy} {types : TypeSettings} {methods getters : List Method}
  {residue : String} {a : Accessor}

/-- **The `smallestGetterName?` of a property is the `bindingName` of its residue.** -/
theorem smallestGetterName?_propertyOf (hbinds : BindsGetters h types methods residue getters)
    (ha : Accessor.ofDeclarations? h getters = some a) (b : Binder) :
    (b.propertyOf residue a).smallestGetterName? = some (bindingName methods residue) := by
  have hnamed : ∀ g ∈ a.getters, ∃ kind, g.name = getterName kind residue :=
    fun g hg => (hbinds.named (Accessor.getters_subset ha hg)).2
  by_cases hplain : plainGetters methods residue = []
  · rw [bindingName, if_pos hplain]
    have hmem : getterName .is residue ∈ a.getters.map Method.name :=
      (hbinds.getterName_mem_iff ha).2 (hbinds.twinGetters_ne_nil hplain)
    refine BoundProperty.smallestGetterName?_eq_some hmem fun g hg => ?_
    obtain ⟨kind, hkind⟩ := hnamed g hg
    cases kind with
    | is => exact .inl hkind
    | get =>
      -- Without `get` getters there is no other name.
      have hget : getterName .get residue ∈ a.getters.map Method.name :=
        hkind ▸ List.mem_map_of_mem hg
      exact absurd hplain ((hbinds.getterName_mem_iff ha).1 hget)
  · rw [bindingName, if_neg hplain]
    have hmem : getterName .get residue ∈ a.getters.map Method.name :=
      (hbinds.getterName_mem_iff ha).2 hplain
    refine BoundProperty.smallestGetterName?_eq_some hmem fun g hg => ?_
    obtain ⟨kind, hkind⟩ := hnamed g hg
    cases kind with
    | get => exact .inl hkind
    | is =>
      rw [hkind]
      exact .inr (String.lt_asymm (get_lt_is residue residue))

end BindsGetters

/-! ## Extraction -/

namespace Extractor

variable (x : Extractor) (m : MethodSet)

/-- **Any two bound properties are `Apart`.** -/
theorem pairwise_apart :
    (x.extract m).properties.Pairwise fun p q => ∃ r r', p.Apart q m.methods r r' := by
  have hb := x.binder_groups m
  refine (Binder.pairwise_bind_properties hb).imp fun {p q} hpq => ?_
  obtain ⟨r, getters, a, r', getters', a', hlt, ⟨hbinds, ha, rfl⟩, hbinds', ha', rfl⟩ := hpq
  exact ⟨r, r', BoundProperty.apart_of_ne m.methods (hbinds.hasResidue ha _)
    (hbinds'.hasResidue ha' _) (Binder.setterNamed_propertyOf hb r a)
    (Binder.setterNamed_propertyOf hb r' a') (ne_of_bindingName_lt hlt)⟩

/-- **The `smallestGetterName?` increases along the properties.** -/
theorem pairwise_smallestGetterName? :
    (x.extract m).properties.Pairwise fun p q => ∃ name name',
      p.smallestGetterName? = some name ∧ q.smallestGetterName? = some name' ∧ name < name' := by
  refine (Binder.pairwise_bind_properties (x.binder_groups m)).imp fun {p q} hpq => ?_
  obtain ⟨r, getters, a, r', getters', a', hlt, ⟨hbinds, ha, rfl⟩, hbinds', ha', rfl⟩ := hpq
  exact ⟨_, _, hbinds.smallestGetterName?_propertyOf ha _,
    hbinds'.smallestGetterName?_propertyOf ha' _, compare_lt_iff_lt.1 hlt⟩

/-- **Accessors are never shared, and properties come in the order of names.** Under every policy,
any two bound properties are `Apart`, with different residues and no getter, no declaration of a
getter and no setter in common; and their `smallestGetterName?` increases along the list. -/
theorem properties_pairwise :
    (x.extract m).properties.Pairwise fun p q =>
      (∃ r r', p.Apart q m.methods r r') ∧
        ∃ name name', p.smallestGetterName? = some name ∧ q.smallestGetterName? = some name' ∧
          name < name' :=
  List.pairwise_and_iff.2 ⟨x.pairwise_apart m, x.pairwise_smallestGetterName? m⟩

end Extractor

end AccessorSchema
