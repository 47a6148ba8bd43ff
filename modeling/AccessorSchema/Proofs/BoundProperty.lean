import AccessorSchema.Proofs.Settlement

/-!
# Which properties are bound

The properties of a type, described by its methods alone: a well-formed residue is bound by its
`get` getters, by its `is` getters, or by both.

* **`plainGetters`**, **`twinGetters`** — the getters of a residue that binding looks at;
* **`MergesTwins`** — when `get` and `is` getters make one property;
* **`BindsGetters`** — the getters a residue is bound by, three cases in all;
* **`Binder.mem_bind_properties_iff`** — the bound properties are those and no others.
-/

namespace AccessorSchema

/-! ## Getters of a residue -/

/-- The `get` getters of a residue that can be bound: those without parameters. -/
def plainGetters (methods : List Method) (residue : String) : List Method :=
  (methodsNamed (getterName .get residue) methods).filter (·.arity = 0)

/-- The `is` getters of a residue that remain without overloads. -/
def twinGetters (methods : List Method) (residue : String) : List Method :=
  unambiguous (methodsNamed (getterName .is residue) methods)

@[simp] theorem mem_plainGetters {methods : List Method} {residue : String} {d : Method} :
    d ∈ plainGetters methods residue ↔
      d ∈ methods ∧ d.name = getterName .get residue ∧ d.parameterTypes = [] := by
  rw [plainGetters, List.mem_filter, mem_methodsNamed, decide_eq_true_eq,
    Method.arity_eq_zero_iff, and_assoc]

/-- The members of `twinGetters methods residue` are methods with the name
`getterName .is residue`. -/
theorem mem_of_mem_twinGetters {methods : List Method} {residue : String} {d : Method}
    (hd : d ∈ twinGetters methods residue) : d ∈ methods ∧ d.name = getterName .is residue :=
  mem_methodsNamed.1 (unambiguous_subset _ hd)

/-- The getters that binding looks at, `plainGetters` and `twinGetters`, are named
`getterName kind residue`. -/
theorem named_of_mem_getters {methods : List Method} {residue : String} {d : Method}
    (hd : d ∈ plainGetters methods residue ++ twinGetters methods residue) :
    d ∈ methods ∧ ∃ kind, d.name = getterName kind residue := by
  rcases List.mem_append.1 hd with hplain | htwin
  · obtain ⟨hmem, hname, -⟩ := mem_plainGetters.1 hplain
    exact ⟨hmem, .get, hname⟩
  · obtain ⟨hmem, hname⟩ := mem_of_mem_twinGetters htwin
    exact ⟨hmem, .is, hname⟩

/-- The getters of `residue` and of one kind that binding looks at: `plainGetters` or
`twinGetters`. -/
def gettersOfKind (methods : List Method) (residue : String) : GetterKind → List Method
  | .get => plainGetters methods residue
  | .is => twinGetters methods residue

/-- Of the getters of `residue` those with the name `getterName kind residue` are the
`gettersOfKind`. -/
theorem filter_name_getters (methods : List Method) (residue : String) (kind : GetterKind) :
    (plainGetters methods residue ++ twinGetters methods residue).filter
        (·.name = getterName kind residue) = gettersOfKind methods residue kind := by
  have hplain : ∀ d ∈ plainGetters methods residue, d.name = getterName .get residue :=
    fun d hd => (mem_plainGetters.1 hd).2.1
  have htwin : ∀ d ∈ twinGetters methods residue, d.name = getterName .is residue :=
    fun d hd => (mem_of_mem_twinGetters hd).2
  -- The one list has the name throughout, the other one nowhere.
  rw [List.filter_append]
  cases kind with
  | get =>
    have hall : (plainGetters methods residue).filter (·.name = getterName .get residue) =
        plainGetters methods residue :=
      List.filter_eq_self.2 fun d hd => by rw [hplain d hd, decide_eq_true_eq]
    have hnone : (twinGetters methods residue).filter (·.name = getterName .get residue) = [] :=
      List.filter_eq_nil_iff.2 fun d hd => by simp [htwin d hd, getterName_inj]
    rw [hall, hnone, List.append_nil, gettersOfKind]
  | is =>
    have hnone : (plainGetters methods residue).filter (·.name = getterName .is residue) = [] :=
      List.filter_eq_nil_iff.2 fun d hd => by simp [hplain d hd, getterName_inj]
    have hall : (twinGetters methods residue).filter (·.name = getterName .is residue) =
        twinGetters methods residue :=
      List.filter_eq_self.2 fun d hd => by rw [htwin d hd, decide_eq_true_eq]
    rw [hnone, hall, List.nil_append, gettersOfKind]

/-- The name of the group in which the getters of `residue` are bound: that of its `get` getters if
some of them can be bound. -/
def bindingName (methods : List Method) (residue : String) : String :=
  getterName (if plainGetters methods residue = [] then .is else .get) residue

/-- What remains of the `get` getters are those without parameters, if there are such. -/
theorem unambiguous_get {methods : List Method} {residue : String}
    (h : plainGetters methods residue ≠ []) :
    unambiguous (methodsNamed (getterName .get residue) methods) = plainGetters methods residue :=
  unambiguous_eq_filter_of_ne_nil h

/-- **Getters of both kinds make one property** if the most specific getter of either kind returns a
boolean and `top`, the most specific getter of all, has no parameters. -/
structure MergesTwins (h : TypeHierarchy) (types : TypeSettings) (methods : List Method)
    (residue : String) (top : Method) : Prop where
  wellFormed : isWellFormedResidue residue = true
  plain : ∃ g, h.mostSpecific? (plainGetters methods residue) = some g ∧
    types.isBoolean g.returnType = true
  twin : ∃ t, h.mostSpecific? (twinGetters methods residue) = some t ∧
    types.isBoolean t.returnType = true
  chosen : h.mostSpecific? (plainGetters methods residue ++ twinGetters methods residue) = some top
  parameterless : top.parameterTypes = []

/-- **The getters that `residue` is bound by**, in an extraction of `methods`. -/
inductive BindsGetters (h : TypeHierarchy) (types : TypeSettings) (methods : List Method)
    (residue : String) : List Method → Prop
  /-- There are `get` getters without parameters and no `is` getters. -/
  | plain (wellFormed : isWellFormedResidue residue = true)
      (some : plainGetters methods residue ≠ []) (alone : twinGetters methods residue = []) :
      BindsGetters h types methods residue (plainGetters methods residue)
  /-- There are getters of both kinds, and they are merged. -/
  | merged {top : Method} (merges : MergesTwins h types methods residue top) :
      BindsGetters h types methods residue
        (plainGetters methods residue ++ twinGetters methods residue)
  /-- There are boolean `is` getters without parameters and no such `get` getters; `top` is the most
  specific. -/
  | twin {top : Method} (wellFormed : isWellFormedResidue residue = true)
      (alone : plainGetters methods residue = [])
      (chosen : h.mostSpecific? (twinGetters methods residue) = some top)
      (parameterless : top.parameterTypes = []) (boolean : types.isBoolean top.returnType = true) :
      BindsGetters h types methods residue (twinGetters methods residue)

namespace BindsGetters

variable {h : TypeHierarchy} {types : TypeSettings} {methods getters : List Method}
  {residue : String} (hbinds : BindsGetters h types methods residue getters)

include hbinds

/-- Only well-formed residues are bound (`isWellFormedResidue`). -/
theorem wellFormed : isWellFormedResidue residue = true := by
  cases hbinds with
  | plain wellFormed _ _ => exact wellFormed
  | merged merges => exact merges.wellFormed
  | twin wellFormed _ _ _ _ => exact wellFormed

/-- A residue is bound by all its getters that binding looks at, `plainGetters` and
`twinGetters`. -/
theorem eq_append :
    getters = plainGetters methods residue ++ twinGetters methods residue := by
  cases hbinds with
  | plain _ _ alone => rw [alone, List.append_nil]
  | merged _ => rfl
  | twin _ alone _ _ _ => rw [alone, List.nil_append]

/-- Without `get` getters it is the `is` getters that a residue is bound by. -/
theorem twinGetters_ne_nil (hplain : plainGetters methods residue = []) :
    twinGetters methods residue ≠ [] := by
  cases hbinds with
  | plain _ some _ => exact absurd hplain some
  | merged merges =>
    obtain ⟨t, ht, -⟩ := merges.twin
    exact TypeHierarchy.ne_nil_of_mostSpecific? ht
  | twin _ _ chosen _ _ => exact TypeHierarchy.ne_nil_of_mostSpecific? chosen

/-- Every getter `d` is one of `plainGetters` or of `twinGetters`, with no parameters in the first
case. -/
theorem mem_plainGetters_or_mem_twinGetters {d : Method} (hd : d ∈ getters) :
    d ∈ plainGetters methods residue ∨ d ∈ twinGetters methods residue := by
  rw [hbinds.eq_append] at hd
  exact List.mem_append.1 hd

/-- Every getter `d` is a method that was given and is named `getterName kind residue`. -/
theorem named {d : Method} (hd : d ∈ getters) :
    d ∈ methods ∧ ∃ kind, d.name = getterName kind residue := by
  rw [hbinds.eq_append] at hd
  exact named_of_mem_getters hd

/-- `getters ≠ []`: a residue is bound by some getter. -/
theorem ne_nil : getters ≠ [] := by
  cases hbinds with
  | plain _ some _ => exact some
  | merged merges => exact TypeHierarchy.ne_nil_of_mostSpecific? merges.chosen
  | twin _ _ chosen _ _ => exact TypeHierarchy.ne_nil_of_mostSpecific? chosen

/-- There is a method with the name `bindingName methods residue`. -/
theorem bindingName_mem : bindingName methods residue ∈ methods.map Method.name := by
  unfold bindingName
  by_cases hplain : plainGetters methods residue = []
  · obtain ⟨t, ht⟩ := List.exists_mem_of_ne_nil _ (hbinds.twinGetters_ne_nil hplain)
    obtain ⟨hmem, hname⟩ := mem_of_mem_twinGetters ht
    rw [if_pos hplain, ← hname]
    exact List.mem_map_of_mem hmem
  · obtain ⟨d, hd⟩ := List.exists_mem_of_ne_nil _ hplain
    obtain ⟨hmem, hname, -⟩ := mem_plainGetters.1 hd
    rw [if_neg hplain, ← hname]
    exact List.mem_map_of_mem hmem

end BindsGetters

namespace Binder

variable {b : Binder} {methods : List Method}

/-! ## The outcome of a getter's group -/

/-- Without a getter that has no parameters, `b.settle` binds nothing and absorbs no other group. -/
theorem settle_getter_of_parameters {kind : GetterKind} {residue : String}
    (hw : isWellFormedResidue residue = true)
    (hnone : ∀ d ∈ unambiguous (methodsNamed (getterName kind residue) methods),
      d.parameterTypes ≠ []) :
    (b.settle (.ofMethods (getterName kind residue) methods)).property = none ∧
      (b.settle (.ofMethods (getterName kind residue) methods)).absorbed = none := by
  cases hp : b.hierarchy.mostSpecific?
      (unambiguous (methodsNamed (getterName kind residue) methods)) with
  | none =>
    obtain ⟨o, heq, hprop, habs⟩ := b.settle_other methods
      (isAccessorName_getterName kind (ne_empty_of_isWellFormedResidue hw)) (fun _ _ _ => hp)
    rw [heq]
    exact ⟨hprop, habs⟩
  | some primary =>
    have harity : primary.arity ≠ 0 := fun h0 =>
      hnone primary (TypeHierarchy.mem_of_mostSpecific? hp) (Method.arity_eq_zero_iff.1 h0)
    rw [settle_getter hw hp]
    simp only [bindGetter, if_pos harity]
    exact ⟨rfl, rfl⟩

/-- The `is` getters of a residue are bound if the most specific one is boolean and has no
parameters. -/
theorem settle_is {residue : String} {top : Method} (hw : isWellFormedResidue residue = true)
    (htop : b.hierarchy.mostSpecific? (twinGetters methods residue) = some top)
    (h0 : top.parameterTypes = []) :
    (b.settle (.ofMethods (getterName .is residue) methods)).property =
        (b.bindProperty .is residue (twinGetters methods residue)).property ∧
      (b.settle (.ofMethods (getterName .is residue) methods)).absorbed = none := by
  have harity : ¬ top.arity ≠ 0 := fun hne => hne (Method.arity_eq_zero_iff.2 h0)
  rw [settle_getter hw htop]
  simp only [bindGetter, if_neg harity, withoutOverloads_kept]
  exact ⟨rfl, b.bindProperty_absorbed ..⟩

/-- An `is` group never settles another group. -/
theorem settle_is_absorbed (b : Binder) {residue : String}
    (hw : isWellFormedResidue residue = true) :
    (b.settle (.ofMethods (getterName .is residue) methods)).absorbed = none := by
  by_cases hnone : ∀ d ∈ twinGetters methods residue, d.parameterTypes ≠ []
  · exact (settle_getter_of_parameters hw hnone).2
  · -- What remains has one parameter list, so that the most specific getter has none either.
    simp only [Classical.not_forall, Classical.not_not] at hnone
    obtain ⟨d, hd, hd0⟩ := hnone
    obtain ⟨top, htop⟩ := b.hierarchy.exists_mostSpecific? (List.ne_nil_of_mem hd)
    have hsame := parameterTypes_eq_of_mem_unambiguous (TypeHierarchy.mem_of_mostSpecific? htop) hd
    exact (settle_is hw htop (by rw [hsame, hd0])).2

/-- A `get` group whose getters all have parameters is not bound and settles no other group. -/
theorem settle_get_of_plain_nil (b : Binder) {residue : String}
    (hw : isWellFormedResidue residue = true) (hplain : plainGetters methods residue = []) :
    (b.settle (.ofMethods (getterName .get residue) methods)).property = none ∧
      (b.settle (.ofMethods (getterName .get residue) methods)).absorbed = none := by
  refine settle_getter_of_parameters hw fun d hd h0 => ?_
  obtain ⟨hmem, hname⟩ := mem_methodsNamed.1 (unambiguous_subset _ hd)
  have hp : d ∈ plainGetters methods residue := mem_plainGetters.2 ⟨hmem, hname, h0⟩
  rw [hplain] at hp
  exact absurd hp List.not_mem_nil

/-- `b.settle` for a name that is no `.valid` getter name binds nothing and absorbs no other
group. -/
theorem settle_of_not_getter (b : Binder) {name : String}
    (hname : ∀ kind residue, GetterName.classify name ≠ .valid kind residue) :
    (b.settle (.ofMethods name methods)).property = none ∧
      (b.settle (.ofMethods name methods)).absorbed = none := by
  by_cases hacc : isAccessorName name = true
  · obtain ⟨o, heq, hprop, habs⟩ := b.settle_other methods hacc
      (fun kind residue hclass => absurd hclass (hname kind residue))
    rw [heq]
    exact ⟨hprop, habs⟩
  · rw [settle_ordinary (by simpa using hacc)]
    exact b.settleOrdinary_property _

variable (hb : b.groups = .ofMethods methods)

include hb

/-- `get` getters without parameters are merged with their twins, and settle their group. -/
theorem settle_get {residue : String} {primary : Method}
    (hw : isWellFormedResidue residue = true)
    (hp : b.hierarchy.mostSpecific? (plainGetters methods residue) = some primary) :
    (b.settle (.ofMethods (getterName .get residue) methods)).property =
        (b.mergeTwin residue primary (plainGetters methods residue)
          (twinGetters methods residue)).property ∧
      (b.settle (.ofMethods (getterName .get residue) methods)).absorbed =
        if methodsNamed (getterName .is residue) methods = [] then none
        else some (getterName .is residue) := by
  have hkept := unambiguous_get (TypeHierarchy.ne_nil_of_mostSpecific? hp)
  have h0 : primary.parameterTypes = [] :=
    (mem_plainGetters.1 (TypeHierarchy.mem_of_mostSpecific? hp)).2.2
  have harity : ¬ primary.arity ≠ 0 := fun hne => hne (Method.arity_eq_zero_iff.2 h0)
  rw [settle_getter hw (by rw [hkept]; exact hp)]
  simp only [bindGetter, if_neg harity, withoutOverloads_kept, hkept, bindWithDual_eq hb]
  exact ⟨rfl, rfl⟩

/-! ## Groups that are settled with another -/

/-- **A group settles another exactly if it is a `get` group with a getter without parameters, and
the other the group of its `is` twin.** -/
theorem settle_absorbed_eq_some_iff {name twin : String} :
    (b.settle (.ofMethods name methods)).absorbed = some twin ↔
      ∃ residue, isWellFormedResidue residue = true ∧ plainGetters methods residue ≠ [] ∧
        methodsNamed (getterName .is residue) methods ≠ [] ∧ name = getterName .get residue ∧
        twin = getterName .is residue := by
  constructor
  · intro habs
    by_cases hget : ∃ kind residue, GetterName.classify name = .valid kind residue
    · obtain ⟨kind, residue, hclass⟩ := hget
      obtain ⟨rfl, hw⟩ := classify_eq_valid_iff.1 hclass
      -- Only `get` names look for a twin, and only if some getter can be bound.
      cases kind with
      | is =>
        rw [b.settle_is_absorbed hw] at habs
        exact absurd habs (by simp)
      | get =>
        by_cases hplain : plainGetters methods residue = []
        · have hnone := (b.settle_get_of_plain_nil hw hplain).2
          rw [hnone] at habs
          exact absurd habs (by simp)
        · obtain ⟨primary, hp⟩ := b.hierarchy.exists_mostSpecific? hplain
          rw [(settle_get hb hw hp).2] at habs
          obtain ⟨hne, hname⟩ := Option.ite_none_left_eq_some.1 habs
          exact ⟨residue, hw, hplain, hne, rfl, (Option.some.inj hname).symm⟩
    · have hnot : ∀ kind residue, GetterName.classify name ≠ .valid kind residue :=
        fun kind residue hclass => hget ⟨kind, residue, hclass⟩
      rw [(b.settle_of_not_getter hnot).2] at habs
      exact absurd habs (by simp)
  · rintro ⟨residue, hw, hplain, hne, rfl, rfl⟩
    obtain ⟨primary, hp⟩ := b.hierarchy.exists_mostSpecific? hplain
    rw [(settle_get hb hw hp).2, if_neg hne]

/-- **An `is` group is settled with its `get` group exactly if that one has a getter without
parameters.** -/
theorem mem_absorbedNames_iff {name : String} :
    name ∈ b.absorbedNames ↔
      ∃ residue, isWellFormedResidue residue = true ∧ plainGetters methods residue ≠ [] ∧
        methodsNamed (getterName .is residue) methods ≠ [] ∧ name = getterName .is residue := by
  unfold absorbedNames
  simp only [List.mem_filterMap, hb, AccessorGroups.mem_ofMethods]
  constructor
  · rintro ⟨_, ⟨n, -, rfl⟩, habs⟩
    obtain ⟨residue, hw, hplain, hne, -, hname⟩ := (settle_absorbed_eq_some_iff hb).1 habs
    exact ⟨residue, hw, hplain, hne, hname⟩
  · rintro ⟨residue, hw, hplain, hne, rfl⟩
    obtain ⟨d, hd⟩ := List.exists_mem_of_ne_nil _ hplain
    obtain ⟨hmem, hname, -⟩ := mem_plainGetters.1 hd
    refine ⟨_, ⟨getterName .get residue, ?_, rfl⟩, ?_⟩
    · rw [← hname]
      exact List.mem_map_of_mem hmem
    · exact (settle_absorbed_eq_some_iff hb).2 ⟨residue, hw, hplain, hne, rfl, rfl⟩

/-! ## The bound properties -/

/-- A `get` group with a getter without parameters makes the properties of its residue. -/
theorem settle_get_property_iff {residue : String} {p : BoundProperty}
    (hw : isWellFormedResidue residue = true) (hplain : plainGetters methods residue ≠ []) :
    (b.settle (.ofMethods (getterName .get residue) methods)).property = some p ↔
      ∃ getters a, BindsGetters b.hierarchy b.types methods residue getters ∧
        Accessor.ofDeclarations? b.hierarchy getters = some a ∧ p = b.propertyOf residue a := by
  obtain ⟨primary, hp⟩ := b.hierarchy.exists_mostSpecific? hplain
  rw [(settle_get hb hw hp).1]
  -- The three cases of `BindsGetters` come apart by whether there are twins.
  cases ht : b.hierarchy.mostSpecific? (twinGetters methods residue) with
  | none =>
    have hnil : twinGetters methods residue = [] := TypeHierarchy.mostSpecific?_eq_none.1 ht
    rw [hnil, mergeTwin_nil, bindProperty_property_eq_some_iff]
    constructor
    · rintro ⟨a, ha, rfl⟩
      exact ⟨_, a, .plain hw hplain hnil, ha.made, rfl⟩
    · rintro ⟨getters, a, hbinds, hmade, rfl⟩
      cases hbinds with
      | plain _ _ _ =>
        have htop := TypeHierarchy.mem_of_mostSpecific? (Accessor.mostSpecific?_eq hmade)
        have h0 : a.mostSpecific.parameterTypes = [] := (mem_plainGetters.1 htop).2.2
        exact ⟨a, ⟨hmade, h0, fun hk => absurd hk (by decide)⟩, rfl⟩
      | merged merges =>
        obtain ⟨t, ht', -⟩ := merges.twin
        rw [ht] at ht'
        exact absurd ht' (by simp)
      | twin _ alone _ _ _ => exact absurd alone hplain
  | some t =>
    rw [mergeTwin_of_mostSpecific? ht]
    constructor
    · intro h
      split at h
      · next hbool =>
        rw [Bool.and_eq_true] at hbool
        obtain ⟨a, ha, rfl⟩ := (b.bindProperty_property_eq_some_iff).1 h
        have hmerges : MergesTwins b.hierarchy b.types methods residue a.mostSpecific :=
          { wellFormed := hw
            plain := ⟨primary, hp, hbool.1⟩
            twin := ⟨t, ht, hbool.2⟩
            chosen := Accessor.mostSpecific?_eq ha.made
            parameterless := ha.parameterless }
        exact ⟨_, a, .merged hmerges, ha.made, rfl⟩
      · exact absurd h (by simp)
    · rintro ⟨getters, a, hbinds, hmade, rfl⟩
      cases hbinds with
      | plain _ _ alone => exact absurd alone (TypeHierarchy.ne_nil_of_mostSpecific? ht)
      | merged merges =>
        -- The most specific getters of either kind are the ones the outcome asks about.
        obtain ⟨g, hg, hgb⟩ := merges.plain
        obtain ⟨t', ht', htb⟩ := merges.twin
        obtain rfl : primary = g := Option.some.inj (hp.symm.trans hg)
        obtain rfl : t = t' := Option.some.inj (ht.symm.trans ht')
        have htop := Option.some.inj (merges.chosen.symm.trans (Accessor.mostSpecific?_eq hmade))
        rw [if_pos (by rw [hgb, htb]; rfl), bindProperty_property_eq_some_iff]
        refine ⟨a, ⟨hmade, ?_, fun hk => absurd hk (by decide)⟩, rfl⟩
        rw [← htop]
        exact merges.parameterless
      | twin _ alone _ _ _ => exact absurd alone hplain

omit hb in
/-- Without such `get` getters, the `is` group makes the properties of its residue. -/
theorem settle_is_property_iff {residue : String} {p : BoundProperty}
    (hw : isWellFormedResidue residue = true) (hplain : plainGetters methods residue = []) :
    (b.settle (.ofMethods (getterName .is residue) methods)).property = some p ↔
      ∃ getters a, BindsGetters b.hierarchy b.types methods residue getters ∧
        Accessor.ofDeclarations? b.hierarchy getters = some a ∧ p = b.propertyOf residue a := by
  constructor
  · intro h
    by_cases hnone : ∀ d ∈ twinGetters methods residue, d.parameterTypes ≠ []
    · rw [(settle_getter_of_parameters hw hnone).1] at h
      exact absurd h (by simp)
    · simp only [Classical.not_forall, Classical.not_not] at hnone
      obtain ⟨d, hd, hd0⟩ := hnone
      obtain ⟨top, htop⟩ := b.hierarchy.exists_mostSpecific? (List.ne_nil_of_mem hd)
      -- Getters that are not overloaded have one parameter list, which is empty.
      have h0 : top.parameterTypes = [] := by
        rw [parameterTypes_eq_of_mem_unambiguous (TypeHierarchy.mem_of_mostSpecific? htop) hd, hd0]
      rw [(settle_is hw htop h0).1, bindProperty_property_eq_some_iff] at h
      obtain ⟨a, ha, rfl⟩ := h
      -- The getter that was examined is the one that was chosen.
      obtain rfl := Option.some.inj (htop.symm.trans (Accessor.mostSpecific?_eq ha.made))
      exact ⟨_, a, .twin hw hplain htop h0 (ha.boolean rfl), ha.made, rfl⟩
  · rintro ⟨getters, a, hbinds, hmade, rfl⟩
    cases hbinds with
    | plain _ some _ => exact absurd hplain some
    | merged merges =>
      obtain ⟨g, hg, -⟩ := merges.plain
      exact absurd hplain (TypeHierarchy.ne_nil_of_mostSpecific? hg)
    | twin _ _ chosen parameterless boolean =>
      obtain rfl := Option.some.inj (chosen.symm.trans (Accessor.mostSpecific?_eq hmade))
      rw [(settle_is hw chosen parameterless).1, bindProperty_property_eq_some_iff]
      exact ⟨a, ⟨hmade, parameterless, fun _ => boolean⟩, rfl⟩

/-- **The group of `bindingName` makes the properties of its residue.** -/
theorem settle_bindingName_property_iff {residue : String} {p : BoundProperty}
    (hw : isWellFormedResidue residue = true) :
    (b.settle (.ofMethods (bindingName methods residue) methods)).property = some p ↔
      ∃ getters a, BindsGetters b.hierarchy b.types methods residue getters ∧
        Accessor.ofDeclarations? b.hierarchy getters = some a ∧ p = b.propertyOf residue a := by
  unfold bindingName
  by_cases hplain : plainGetters methods residue = []
  · rw [if_pos hplain]
    exact settle_is_property_iff hw hplain
  · rw [if_neg hplain]
    exact settle_get_property_iff hb hw hplain

/-- `p ∈ b.bind.properties` exactly if `p` is bound in the group of some name not in
`b.absorbedNames`. -/
theorem mem_bind_properties {p : BoundProperty} :
    p ∈ b.bind.properties ↔
      ∃ name ∈ methods.map Method.name, name ∉ b.absorbedNames ∧
        (b.settle (.ofMethods name methods)).property = some p := by
  unfold bind
  simp only [List.mem_filterMap, mem_outcomes_iff hb]
  constructor
  · rintro ⟨o, ⟨name, hname, habs, rfl⟩, hprop⟩
    exact ⟨name, hname, habs, hprop⟩
  · rintro ⟨name, hname, habs, hprop⟩
    exact ⟨_, ⟨name, hname, habs, rfl⟩, hprop⟩

/-- `bindingName methods residue ∉ b.absorbedNames`: the group that a residue is bound in is settled
on its own. -/
theorem bindingName_not_mem_absorbedNames (residue : String) :
    bindingName methods residue ∉ b.absorbedNames := by
  intro habs
  obtain ⟨r, -, hr, -, heq⟩ := (mem_absorbedNames_iff hb).1 habs
  obtain ⟨hkind, rfl⟩ := getterName_inj.1 heq
  -- Only an `is` group is settled with another, and only if there are `get` getters.
  rw [if_neg hr] at hkind
  exact absurd hkind (by decide)

/-- An `is` group is settled on its own if there is no `get` getter to bind. -/
theorem plainGetters_eq_nil_of_not_mem_absorbedNames {residue : String}
    (hw : isWellFormedResidue residue = true)
    (hname : getterName .is residue ∈ methods.map Method.name)
    (habs : getterName .is residue ∉ b.absorbedNames) : plainGetters methods residue = [] := by
  refine Classical.byContradiction fun hplain => habs ?_
  have hne : methodsNamed (getterName .is residue) methods ≠ [] := fun hnil =>
    methodsNamed_eq_nil_iff.1 hnil hname
  exact (mem_absorbedNames_iff hb).2 ⟨residue, hw, hplain, hne, rfl⟩

/-- The group of a getter name that is settled on its own is the one that the residue is bound in, if
there is a `get` getter to bind where the name is that of one. -/
theorem eq_bindingName_of_not_mem_absorbedNames {kind : GetterKind} {residue : String}
    (hw : isWellFormedResidue residue = true)
    (hname : getterName kind residue ∈ methods.map Method.name)
    (habs : getterName kind residue ∉ b.absorbedNames)
    (hget : kind = .get → plainGetters methods residue ≠ []) :
    getterName kind residue = bindingName methods residue := by
  cases kind with
  | get => rw [bindingName, if_neg (hget rfl)]
  | is =>
    rw [bindingName, if_pos (plainGetters_eq_nil_of_not_mem_absorbedNames hb hw hname habs)]

/-- What a group binds that was not settled with another is a property of its residue, and the
residue alone decides which group that is (`bindingName`). -/
theorem exists_bindsGetters_of_settle {name : String} {p : BoundProperty}
    (hname : name ∈ methods.map Method.name) (habs : name ∉ b.absorbedNames)
    (hprop : (b.settle (.ofMethods name methods)).property = some p) :
    ∃ residue, name = bindingName methods residue ∧
      ∃ getters a, BindsGetters b.hierarchy b.types methods residue getters ∧
        Accessor.ofDeclarations? b.hierarchy getters = some a ∧ p = b.propertyOf residue a := by
  by_cases hget : ∃ kind residue, GetterName.classify name = .valid kind residue
  · obtain ⟨kind, residue, hclass⟩ := hget
    obtain ⟨rfl, hw⟩ := classify_eq_valid_iff.1 hclass
    have hbinding : getterName kind residue = bindingName methods residue := by
      refine eq_bindingName_of_not_mem_absorbedNames hb hw hname habs ?_
      -- A `get` group without getters to bind makes no property.
      rintro rfl hplain
      rw [(b.settle_get_of_plain_nil hw hplain).1] at hprop
      exact absurd hprop (by simp)
    rw [hbinding] at hprop
    exact ⟨residue, hbinding, (settle_bindingName_property_iff hb hw).1 hprop⟩
  · have hnot : ∀ kind residue, GetterName.classify name ≠ .valid kind residue :=
      fun kind residue hclass => hget ⟨kind, residue, hclass⟩
    rw [(b.settle_of_not_getter hnot).1] at hprop
    exact absurd hprop (by simp)

/-- **`p ∈ b.bind.properties`** exactly if `p` is the property `b.propertyOf` of a residue that
getters bind. -/
theorem mem_bind_properties_iff {p : BoundProperty} :
    p ∈ b.bind.properties ↔
      ∃ residue getters a, BindsGetters b.hierarchy b.types methods residue getters ∧
        Accessor.ofDeclarations? b.hierarchy getters = some a ∧ p = b.propertyOf residue a := by
  rw [mem_bind_properties hb]
  constructor
  · rintro ⟨name, hname, habs, hprop⟩
    obtain ⟨residue, -, hbound⟩ := exists_bindsGetters_of_settle hb hname habs hprop
    exact ⟨residue, hbound⟩
  · rintro ⟨residue, getters, a, hbinds, hmade, rfl⟩
    exact ⟨bindingName methods residue, hbinds.bindingName_mem,
      bindingName_not_mem_absorbedNames hb residue,
      (settle_bindingName_property_iff hb hbinds.wellFormed).2 ⟨getters, a, hbinds, hmade, rfl⟩⟩

end Binder

end AccessorSchema
