import AccessorSchema.Policy.Recording
import AccessorSchema.Proofs.PropertyContent

/-!
# Which methods are handled

A method is handled because something is said of it or because it belongs to a property, and which of
the two it is can be read off the methods and the properties alone:

* **`HandledFor`** — the five reasons: override chains and overloads of ordinary names, overloads of
  accessor names, getters, and setters;
* `Binder.mem_handled_settleOrdinary_iff` — the reasons for ordinary names;
* **`Binder.mem_bind_handled_iff`** — binding accounts for the methods that have a reason;
* **`Extractor.mem_extract_handled_iff`** — the policy that records adds nothing to them, and that for
  managed structs the methods with an implementation.
-/

namespace AccessorSchema

/-! ## Reasons -/

/-- **`HandledFor properties methods m`**: the reasons for which a method `m` counts as handled,
given the bound `properties`. -/
inductive HandledFor (properties : List BoundProperty) (methods : List Method) (m : Method) : Prop
  /-- An ordinary method: `other` has its signature. -/
  | overridden (ordinary : isAccessorName m.name = false) {other : Method} (mem : other ∈ methods)
      (ne : other ≠ m) (same : other.SameSignature m)
  /-- An accessor: `n` and `n'`, of its name, differ in their `parameterTypes`. -/
  | overloadedAccessor (accessor : isAccessorName m.name = true) {n n' : Method}
      (mem : n ∈ methods) (mem' : n' ∈ methods) (name : n.name = m.name) (name' : n'.name = m.name)
      (differ : n.parameterTypes ≠ n'.parameterTypes)
  /-- An ordinary method that `HasOwnSignature`: `other`, of its name, has a signature of its own as
  well. -/
  | overloaded (ordinary : isAccessorName m.name = false) (own : m.HasOwnSignature methods)
      {other : Method} (mem : other ∈ methods) (name : other.name = m.name) (ne : other ≠ m)
      (own' : other.HasOwnSignature methods)
  /-- A getter `g` of the method's name is bound. -/
  | getter {p : BoundProperty} {g : Method} (bound : p ∈ properties) (mem : g ∈ p.getterBindings)
      (name : g.name = m.name)
  /-- The method is named like the setter of the property `p`. -/
  | setter {p : BoundProperty} {residue : String} (bound : p ∈ properties)
      (hasResidue : p.HasResidue residue) (name : m.name = setterName residue)

/-- `HandledFor` speaks of the `getterBindings` and of nothing else in the properties. -/
theorem HandledFor.mono {properties properties' : List BoundProperty} {methods : List Method}
    {m : Method} (h : HandledFor properties methods m)
    (hsame : ∀ p ∈ properties, ∃ p' ∈ properties', p'.getterBindings = p.getterBindings) :
    HandledFor properties' methods m := by
  cases h with
  | overridden ordinary mem ne same => exact .overridden ordinary mem ne same
  | overloadedAccessor accessor mem mem' name name' differ =>
    exact .overloadedAccessor accessor mem mem' name name' differ
  | overloaded ordinary own mem name ne own' => exact .overloaded ordinary own mem name ne own'
  | getter bound mem name =>
    obtain ⟨p', hp', heq⟩ := hsame _ bound
    exact .getter hp' (heq ▸ mem) name
  | @setter p residue bound hasResidue name =>
    obtain ⟨p', hp', heq⟩ := hsame _ bound
    have hresidue : p'.HasResidue residue := by
      unfold BoundProperty.HasResidue
      rw [heq]
      exact hasResidue
    exact .setter hp' hresidue name

/-- `HasOwnSignature` among all `methods` is the same as among `methodsNamed name methods`. -/
theorem hasOwnSignature_methodsNamed_iff {name : String} {methods : List Method} {m : Method}
    (hname : m.name = name) :
    m.HasOwnSignature (methodsNamed name methods) ↔ m.HasOwnSignature methods := by
  constructor
  · intro h n hn hsame
    exact h n (mem_methodsNamed.2 ⟨hn, hsame.1.trans hname⟩) hsame
  · intro h n hn hsame
    exact h n (mem_methodsNamed.1 hn).1 hsame

/-! ## Groups -/

/-- Among the getters of `BindsGetters`, one brings all declarations of its name with it, unless
there are `overloads` of the name. -/
theorem BindsGetters.mem_of_name_eq {h : TypeHierarchy} {types : TypeSettings}
    {methods getters : List Method} {residue : String} {a : Accessor}
    (hbinds : BindsGetters h types methods residue getters)
    (ha : Accessor.ofDeclarations? h getters = some a) {g m : Method} (hg : g ∈ a.getters)
    (hm : m ∈ methods) (hname : g.name = m.name)
    (hover : overloads (methodsNamed m.name methods) = []) : m ∈ getters := by
  obtain ⟨kind, hkind⟩ := (hbinds.named (Accessor.getters_subset ha hg)).2
  have hne : gettersOfKind methods residue kind ≠ [] :=
    (hbinds.getterName_mem_iff ha).1 (hkind ▸ List.mem_map_of_mem hg)
  have hdecl : m ∈ declarationsOf methods (getterName kind residue) := by
    rw [declarationsOf_eq_unambiguous, ← hkind, hname, unambiguous_of_overloads_eq_nil hover]
    exact mem_methodsNamed.2 ⟨hm, rfl⟩
  rw [← gettersOfKind_eq_declarationsOf hne, ← hbinds.filter_name_eq_gettersOfKind] at hdecl
  exact (List.mem_filter.1 hdecl).1

namespace Binder

variable {b : Binder} {methods : List Method}

/-- **What `settleOrdinary` accounts for** are the methods whose signature another method has, and
the others as well if there are several of these. -/
theorem mem_handled_settleOrdinary_iff {among : List Method} (hnodup : among.Nodup) {m : Method} :
    m ∈ (b.settleOrdinary among).handled ↔
      m ∈ among ∧ (¬ m.HasOwnSignature among ∨
        ∃ other ∈ among, other ≠ m ∧ m.HasOwnSignature among ∧ other.HasOwnSignature among) := by
  -- What the override chains leave over are the methods with a signature of their own.
  have hrest : ∀ n, n ∈ among.filter (· ∉ (overrideChains among).flatten) ↔
      n ∈ among ∧ n.HasOwnSignature among := by
    intro n
    rw [List.mem_filter, decide_eq_true_eq, mem_flatten_overrideChains_iff hnodup]
    refine and_congr_right fun hn => ?_
    simp [hn]
  rw [settleOrdinary_eq]
  simp only [GroupOutcome.after_handled, GroupOutcome.empty_handled, List.append_nil,
    List.mem_append, mem_handled_withoutOverloads, mem_flatten_overrideChains_iff hnodup]
  constructor
  · rintro (⟨hm, hown⟩ | ⟨hover, hm⟩)
    · exact ⟨hm, .inl hown⟩
    · obtain ⟨hmem, hown⟩ := (hrest m).1 hm
      have hown' : m.HasOwnSignature (among.filter (· ∉ (overrideChains among).flatten)) :=
        fun n hn => hown n ((hrest n).1 hn).1
      -- Signatures do not repeat among what is left over, so overloads need a second method.
      obtain ⟨other, hother, hne⟩ := (overloads_ne_nil_iff_exists_ne hm hown').1 hover
      obtain ⟨hothermem, hotherown⟩ := (hrest other).1 hother
      exact ⟨hmem, .inr ⟨other, hothermem, hne, hown, hotherown⟩⟩
  · rintro ⟨hm, hown | ⟨other, hother, hne, hown, hotherown⟩⟩
    · exact .inl ⟨hm, hown⟩
    · -- Both methods are left over by the chains, and so they are reported as overloads.
      have hleft := (hrest m).2 ⟨hm, hown⟩
      have hown' : m.HasOwnSignature (among.filter (· ∉ (overrideChains among).flatten)) :=
        fun n hn => hown n ((hrest n).1 hn).1
      exact .inr ⟨(overloads_ne_nil_iff_exists_ne hleft hown').2
        ⟨other, (hrest other).2 ⟨hother, hotherown⟩, hne⟩, hleft⟩

/-- What `settle` accounts for in the group of an ordinary name, seen among all `methods`. -/
theorem mem_handled_ordinary_iff {name : String} {m : Method}
    (hacc : isAccessorName name = false) :
    m ∈ (b.settle (.ofMethods name methods)).handled ↔
      m ∈ methods ∧ m.name = name ∧ (¬ m.HasOwnSignature methods ∨
        ∃ other ∈ methods, other.name = name ∧ other ≠ m ∧ m.HasOwnSignature methods ∧
          other.HasOwnSignature methods) := by
  have hnodup : (methodsNamed name methods).Nodup := nodup_distinct _
  rw [settle_ordinary hacc, mem_handled_settleOrdinary_iff hnodup, mem_methodsNamed, and_assoc]
  refine and_congr_right fun _ => and_congr_right fun hname => ?_
  rw [hasOwnSignature_methodsNamed_iff hname]
  refine or_congr Iff.rfl (exists_congr fun other => ?_)
  rw [mem_methodsNamed, and_assoc]
  refine and_congr_right fun _ => and_congr_right fun hother => ?_
  rw [hasOwnSignature_methodsNamed_iff hother]

/-- A method that the group of an ordinary name accounts for is `HandledFor` one of the reasons for
ordinary methods. -/
theorem handledFor_of_ordinary {properties : List BoundProperty} {name : String} {m : Method}
    (hacc : isAccessorName name = false) (hm : m ∈ (b.settle (.ofMethods name methods)).handled) :
    HandledFor properties methods m := by
  obtain ⟨-, rfl, hreason⟩ := (mem_handled_ordinary_iff hacc).1 hm
  rcases hreason with hown | ⟨other, hother, hname, hne, hown, hotherown⟩
  · unfold Method.HasOwnSignature at hown
    simp only [Classical.not_forall] at hown
    obtain ⟨n, hn, hsame, hne⟩ := hown
    exact .overridden hacc hn hne hsame
  · exact .overloaded hacc hown hother hname hne hotherown

variable (hb : b.groups = .ofMethods methods)

include hb

/-- The getters and the setter of a decision, as `Decides` has them, are a reason for
`HandledFor`. -/
theorem Decides.handledFor {name : String} {o : GroupOutcome} {m : Method}
    (h : b.Decides methods name o) (hm : m ∈ o.handled) :
    m ∈ methods ∧ HandledFor b.bind.properties methods m := by
  cases h with
  | @bound residue getters a _ binds made =>
    have hprop : b.propertyOf residue a ∈ b.bind.properties :=
      (mem_bind_properties_iff hb).2 ⟨residue, getters, a, binds, made, rfl⟩
    rcases (mem_handled_boundOutcome hb made).1 hm with hget | hset
    · obtain ⟨g, hg, hname, -⟩ := Accessor.exists_mem_getters made hget
      exact ⟨(binds.named hget).1, .getter hprop hg hname⟩
    · obtain ⟨hmem, hname⟩ := mem_methodsNamed.1 hset
      exact ⟨hmem, .setter hprop (binds.hasResidue made b) hname⟩
  | refused _ _ _ _ => exact absurd hm List.not_mem_nil
  | nothing _ => exact absurd hm List.not_mem_nil

/-- What a group outside `absorbedNames` accounts for is `HandledFor` a reason. -/
theorem handledFor_of_mem_settle {name : String} {m : Method} (hname : name ∈ methods.map Method.name)
    (habs : name ∉ b.absorbedNames) (hm : m ∈ (b.settle (.ofMethods name methods)).handled) :
    m ∈ methods ∧ HandledFor b.bind.properties methods m := by
  by_cases hacc : isAccessorName name = true
  · obtain ⟨o, hdecides, hsettles⟩ := exists_settles hb hname habs hacc
    rcases hsettles.mem_handled_iff.1 hm with ⟨n, hn, hover⟩ | hdecided
    · obtain ⟨hne, hmem, rfl⟩ := mem_resolved_handled.1 hover
      rw [ne_eq, overloads_methodsNamed_eq_nil_iff] at hne
      simp only [Classical.not_forall] at hne
      obtain ⟨k, hk, l, hl, hdiffer⟩ := hne
      obtain ⟨hkmem, hkname⟩ := mem_methodsNamed.1 hk
      obtain ⟨hlmem, hlname⟩ := mem_methodsNamed.1 hl
      have hmacc := isAccessorName_of_mem_settledNames hb hn hacc
      exact ⟨hmem, .overloadedAccessor hmacc hkmem hlmem hkname hlname hdiffer⟩
    · exact hdecides.handledFor hb hdecided
  · have hord : isAccessorName name = false := by simpa using hacc
    exact ⟨((mem_handled_ordinary_iff hord).1 hm).1, handledFor_of_ordinary hord hm⟩

/-- What the group of a name outside `absorbedNames` accounts for is among the `handled` of
`bind`. -/
theorem mem_bind_handled_of_settle {name : String} {m : Method}
    (hname : name ∈ methods.map Method.name) (habs : name ∉ b.absorbedNames)
    (hm : m ∈ (b.settle (.ofMethods name methods)).handled) : m ∈ b.bind.handled := by
  refine OrderedSet.mem_ofList.2 (List.mem_flatMap.2 ⟨_, ?_, hm⟩)
  exact (mem_outcomes_iff hb).2 ⟨name, hname, habs, rfl⟩

/-- An ordinary name is settled in its own group, and so is not among `absorbedNames`. -/
theorem not_mem_absorbedNames_of_ordinary {name : String} (hacc : isAccessorName name = false) :
    name ∉ b.absorbedNames := by
  intro habs
  obtain ⟨residue, hw, -, -, rfl⟩ := (mem_absorbedNames_iff hb).1 habs
  rw [isAccessorName_getterName .is (ne_empty_of_isWellFormedResidue hw)] at hacc
  exact absurd hacc (by decide)

/-- **The methods of an accessor name with `overloads` are among the `handled` of `bind`**,
whichever group settles the name. -/
theorem mem_bind_handled_of_overloaded {m : Method} (hm : m ∈ methods)
    (hacc : isAccessorName m.name = true) (hover : overloads (methodsNamed m.name methods) ≠ []) :
    m ∈ b.bind.handled := by
  obtain ⟨name, hname, habs, hnacc, hsettled⟩ :=
    exists_mem_settledNames hb (List.mem_map_of_mem hm) hacc
  obtain ⟨o, -, hsettles⟩ := exists_settles hb hname habs hnacc
  refine mem_bind_handled_of_settle hb hname habs (hsettles.mem_handled_iff.2 (.inl ?_))
  exact ⟨m.name, hsettled, mem_resolved_handled.2 ⟨hover, hm, rfl⟩⟩

/-- The getters for which `BindsGetters` holds and the methods of the `setterName` are among the
`handled` of `bind`. -/
theorem mem_bind_handled_of_bindsGetters {residue : String} {getters : List Method} {a : Accessor}
    {m : Method} (hbinds : BindsGetters b.hierarchy b.types methods residue getters)
    (ha : Accessor.ofDeclarations? b.hierarchy getters = some a)
    (hm : m ∈ getters ∨ m ∈ methodsNamed (setterName residue) methods) : m ∈ b.bind.handled := by
  refine mem_bind_handled_of_settle hb hbinds.bindingName_mem
    (bindingName_not_mem_absorbedNames hb residue) ?_
  refine (settles_of_bindsGetters hb hbinds ha).mem_handled_iff.2 (.inr ?_)
  exact (mem_handled_boundOutcome hb ha).2 hm

/-- **`bind` accounts for exactly the methods that are `HandledFor` a reason.** -/
theorem mem_bind_handled_iff {m : Method} :
    m ∈ b.bind.handled ↔ m ∈ methods ∧ HandledFor b.bind.properties methods m := by
  constructor
  · intro hm
    obtain ⟨o, ho, hmo⟩ := List.mem_flatMap.1 (OrderedSet.mem_ofList.1 hm)
    obtain ⟨name, hname, habs, rfl⟩ := (mem_outcomes_iff hb).1 ho
    exact handledFor_of_mem_settle hb hname habs hmo
  · rintro ⟨hm, hreason⟩
    have hname : m.name ∈ methods.map Method.name := List.mem_map_of_mem hm
    -- Each reason names the group that accounts for the method.
    cases hreason with
    | overridden ordinary mem ne same =>
      refine mem_bind_handled_of_settle hb hname (not_mem_absorbedNames_of_ordinary hb ordinary) ?_
      exact (mem_handled_ordinary_iff ordinary).2 ⟨hm, rfl, .inl fun hown => ne (hown _ mem same)⟩
    | overloadedAccessor accessor mem mem' name name' differ =>
      refine mem_bind_handled_of_overloaded hb hm accessor fun hnil => differ ?_
      exact overloads_methodsNamed_eq_nil_iff.1 hnil _ (mem_methodsNamed.2 ⟨mem, name⟩) _
        (mem_methodsNamed.2 ⟨mem', name'⟩)
    | overloaded ordinary own mem name ne own' =>
      refine mem_bind_handled_of_settle hb hname (not_mem_absorbedNames_of_ordinary hb ordinary) ?_
      exact (mem_handled_ordinary_iff ordinary).2 ⟨hm, rfl, .inr ⟨_, mem, name, ne, own, own'⟩⟩
    | getter bound mem name =>
      obtain ⟨residue, getters, a, hbinds, ha, rfl⟩ := (mem_bind_properties_iff hb).1 bound
      by_cases hover : overloads (methodsNamed m.name methods) = []
      · have hget : m ∈ getters := hbinds.mem_of_name_eq ha mem hm name hover
        exact mem_bind_handled_of_bindsGetters hb hbinds ha (.inl hget)
      · -- Of an overloaded name the getters with parameters are handled, too.
        obtain ⟨kind, hkind⟩ := (hbinds.named (Accessor.getters_subset ha mem)).2
        have hacc : isAccessorName m.name = true := by
          rw [← name, hkind]
          exact isAccessorName_getterName kind (ne_empty_of_isWellFormedResidue hbinds.wellFormed)
        exact mem_bind_handled_of_overloaded hb hm hacc hover
    | setter bound hasResidue name =>
      obtain ⟨r, getters, a, hbinds, ha, rfl⟩ := (mem_bind_properties_iff hb).1 bound
      rw [hasResidue.unique (hbinds.hasResidue ha b)] at name
      exact mem_bind_handled_of_bindsGetters hb hbinds ha (.inr (mem_methodsNamed.2 ⟨hm, name⟩))

end Binder

/-! ## Extraction -/

namespace Extractor

/-- The extractor with the policy `recording`; every setter gets the same `verdict`. -/
def recording (verdict : SetterVerdict) (types : TypeSettings) (h : TypeHierarchy) : Extractor where
  policy := .recording verdict
  hierarchy := h
  types := types

/-- Which getters are bound depends on the `hierarchy` and the `types` and not on the policy. -/
theorem exists_property_of_same_rules {x y : Extractor} (m : MethodSet)
    (hhierarchy : x.hierarchy = y.hierarchy) (htypes : x.types = y.types) :
    ∀ p ∈ (x.extract m).properties,
      ∃ p' ∈ (y.extract m).properties, p'.getterBindings = p.getterBindings := by
  intro p hp
  obtain ⟨residue, getters, a, hbinds, ha, rfl⟩ := (x.mem_extract_properties_iff m).1 hp
  rw [hhierarchy, htypes] at hbinds
  rw [hhierarchy] at ha
  exact ⟨_, (y.mem_extract_properties_iff m).2 ⟨residue, getters, a, hbinds, ha, rfl⟩, rfl⟩

/-- Which methods `bind` accounts for depends on the `hierarchy` and the `types` and not on the
policy. -/
theorem mem_bind_handled_of_same_rules {x y : Extractor} {m : MethodSet} {d : Method}
    (hhierarchy : x.hierarchy = y.hierarchy) (htypes : x.types = y.types)
    (hd : d ∈ (x.binder m).bind.handled) : d ∈ (y.binder m).bind.handled := by
  obtain ⟨hmem, hreason⟩ := (Binder.mem_bind_handled_iff (x.binder_groups m)).1 hd
  refine (Binder.mem_bind_handled_iff (y.binder_groups m)).2 ⟨hmem, hreason.mono ?_⟩
  exact exists_property_of_same_rules m hhierarchy htypes

/-- The policy `recording` excuses nothing. -/
theorem mem_handled_recording (verdict : SetterVerdict) (types : TypeSettings) (h : TypeHierarchy)
    (m : MethodSet) (d : Method) :
    d ∈ ((recording verdict types h).extract m).handled ↔
      d ∈ ((recording verdict types h).binder m).bind.handled := by
  rw [extract_handled, ← OrderedSet.mem_iff, mem_checkCoverage_handled]
  have hnone : d ∉ excusedMethods (recording verdict types h).policy m.target.name m.methods
      ((recording verdict types h).binder m).bind.handled := OrderedSet.not_mem_empty d
  constructor
  · rintro (hbound | ⟨-, hexcused⟩)
    · exact hbound
    · exact absurd hexcused hnone
  · exact .inl

/-- The policy `managed` excuses the methods with an implementation. -/
theorem mem_handled_managed (policyTypes types : TypeSettings) (h : TypeHierarchy) (m : MethodSet)
    (d : Method) :
    d ∈ ((managed policyTypes types h).extract m).handled ↔
      d ∈ ((managed policyTypes types h).binder m).bind.handled ∨
        d ∈ m.methods ∧ d.isConcrete = true := by
  have hexcused : d ∈ excusedMethods (managed policyTypes types h).policy m.target.name m.methods
      ((managed policyTypes types h).binder m).bind.handled ↔
        d ∈ leftovers m.methods ((managed policyTypes types h).binder m).bind.handled ∧
          d.isConcrete = true := mem_excusedMethods_managed
  rw [extract_handled, ← OrderedSet.mem_iff, mem_checkCoverage_handled, hexcused, mem_leftovers]
  constructor
  · rintro (hbound | ⟨⟨hmem, -⟩, -, hconcrete⟩)
    · exact .inl hbound
    · exact .inr ⟨hmem, hconcrete⟩
  · rintro (hbound | ⟨hmem, hconcrete⟩)
    · exact .inl hbound
    · -- What binding has accounted for need not be excused.
      by_cases hbound : d ∈ ((managed policyTypes types h).binder m).bind.handled
      · exact .inl hbound
      · exact .inr ⟨⟨hmem, hbound⟩, ⟨hmem, hbound⟩, hconcrete⟩

/-- **Which methods are handled.** Under `recording`, whatever its `verdict`, these are the methods
that are `HandledFor` a reason; under `managed` the methods with an implementation join them. -/
theorem mem_extract_handled_iff (verdict : SetterVerdict) (policyTypes types : TypeSettings)
    (h : TypeHierarchy) (m : MethodSet) (d : Method) :
    (d ∈ ((recording verdict types h).extract m).handled ↔
        d ∈ m.methods ∧ HandledFor ((recording verdict types h).extract m).properties m.methods d) ∧
      (d ∈ ((managed policyTypes types h).extract m).handled ↔
        d ∈ ((recording verdict types h).extract m).handled ∨
          d ∈ m.methods ∧ d.isConcrete = true) := by
  have hsame : d ∈ ((managed policyTypes types h).binder m).bind.handled ↔
      d ∈ ((recording verdict types h).binder m).bind.handled :=
    ⟨mem_bind_handled_of_same_rules rfl rfl, mem_bind_handled_of_same_rules rfl rfl⟩
  rw [mem_handled_managed, mem_handled_recording, hsame]
  exact ⟨Binder.mem_bind_handled_iff ((recording verdict types h).binder_groups m), Iff.rfl⟩

end Extractor

end AccessorSchema
