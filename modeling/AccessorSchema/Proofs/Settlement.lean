import AccessorSchema.Binding
import AccessorSchema.Proofs.AccessorName
import AccessorSchema.Proofs.Grouping

/-!
# What becomes of a group

The outcome of a group of methods, function by function:

* **`Binder.withoutOverloads_eq`** — of an overloaded group all methods are accounted for, and
  those without parameters go on;
* **`Binder.bindProperty_cases`** — getters are refused, or bound to the property
  `Binder.propertyOf` with their setter;
* **`Binder.bindWithDual_eq`** — the `is` twin is settled with its `get` getter, whether or not
  there is such a group;
* **`Binder.settle_getter`**, `Binder.settle_other`, `Binder.settle_ordinary` — the group of a
  name is settled as the name says: as getters, as accessors that are left alone or refused, or as
  ordinary methods.
-/

namespace AccessorSchema

/-! ## Outcomes -/

namespace GroupOutcome

@[simp] theorem after_property (handled : List Method) (j : Journal) (o : GroupOutcome) :
    (o.after handled j).property = o.property := rfl

@[simp] theorem after_absorbed (handled : List Method) (j : Journal) (o : GroupOutcome) :
    (o.after handled j).absorbed = o.absorbed := rfl

@[simp] theorem after_handled (handled : List Method) (j : Journal) (o : GroupOutcome) :
    (o.after handled j).handled = handled ++ o.handled := rfl

@[simp] theorem after_journal (handled : List Method) (j : Journal) (o : GroupOutcome) :
    (o.after handled j).journal = j ++ o.journal := rfl

/-- `absorbing name o`: the same outcome, with the `name` of another group that was settled with
it. -/
def absorbing (name : Option String) (o : GroupOutcome) : GroupOutcome :=
  { o with absorbed := name }

@[simp] theorem absorbing_property (name : Option String) (o : GroupOutcome) :
    (o.absorbing name).property = o.property := rfl

@[simp] theorem absorbing_absorbed (name : Option String) (o : GroupOutcome) :
    (o.absorbing name).absorbed = name := rfl

@[simp] theorem absorbing_handled (name : Option String) (o : GroupOutcome) :
    (o.absorbing name).handled = o.handled := rfl

@[simp] theorem absorbing_journal (name : Option String) (o : GroupOutcome) :
    (o.absorbing name).journal = o.journal := rfl

@[simp] theorem empty_property : (∅ : GroupOutcome).property = none := rfl

@[simp] theorem empty_handled : (∅ : GroupOutcome).handled = [] := rfl

@[simp] theorem empty_absorbed : (∅ : GroupOutcome).absorbed = none := rfl

end GroupOutcome

namespace Binder

variable (b : Binder)

@[simp] theorem refuse_property (m : Method) (message : String) :
    (b.refuse m message).property = none := rfl

@[simp] theorem refuse_handled (m : Method) (message : String) :
    (b.refuse m message).handled = [] := rfl

@[simp] theorem refuse_absorbed (m : Method) (message : String) :
    (b.refuse m message).absorbed = none := rfl

/-! ## Overloads -/

/-- **`withoutOverloads` accounts for all methods of an overloaded group.** -/
theorem withoutOverloads_eq (methods : List Method) :
    b.withoutOverloads methods =
      if overloads methods = [] then { kept := methods }
      else
        { kept := methods.filter (·.arity = 0)
          handled := methods
          journal := b.policy.overloadedMethods b.subject (overloads methods) } := by
  unfold withoutOverloads
  cases overloads methods with
  | nil => rfl
  | cons m firsts => rfl

/-- What `withoutOverloads` has `kept` to go on to be bound is `unambiguous`. -/
@[simp] theorem withoutOverloads_kept (methods : List Method) :
    (b.withoutOverloads methods).kept = unambiguous methods := by
  rw [withoutOverloads_eq, unambiguous]
  split <;> rfl

/-- `withoutOverloads` accounts for methods of an overloaded group only. -/
theorem mem_handled_withoutOverloads {methods : List Method} {m : Method} :
    m ∈ (b.withoutOverloads methods).handled ↔ overloads methods ≠ [] ∧ m ∈ methods := by
  rw [withoutOverloads_eq]
  by_cases ho : overloads methods = []
  · rw [if_pos ho]
    simp [ho]
  · rw [if_neg ho]
    simp [ho]

/-- Where there are no `overloads`, `withoutOverloads` reports nothing. -/
theorem journal_withoutOverloads_of_eq_nil {methods : List Method} (ho : overloads methods = []) :
    (b.withoutOverloads methods).journal = ∅ := by
  rw [withoutOverloads_eq, if_pos ho]

/-- Where there are `overloads`, `withoutOverloads` reports them. -/
theorem journal_withoutOverloads_of_ne_nil {methods : List Method} (ho : overloads methods ≠ []) :
    (b.withoutOverloads methods).journal =
      b.policy.overloadedMethods b.subject (overloads methods) := by
  rw [withoutOverloads_eq, if_neg ho]

/-! ## Properties -/

/-- `propertyOf residue getter`: the property that the `getter` and the setter of a `residue`
make. -/
def propertyOf (residue : String) (getter : Accessor) : BoundProperty where
  name := decapitalize residue
  valueType := getter.mostSpecific.returnType
  state := (b.policy.classifyState b.subject getter).1
  declaringTypes := getter.declaringTypes
  getterBindings := getter.getters
  setterBinding := (b.bindSetter getter.mostSpecific.returnType getter (b.setterOf residue)).1
  isOpaque := getter.hasMarker .unmanaged

/-- What `bindSetter` says of a setter is what `validateSetter` says of it. -/
theorem bindSetter_journal (valueType : TypeName) (getter setter : Accessor) :
    (b.bindSetter valueType getter (some setter)).2 =
      (b.policy.validateSetter b.subject valueType getter setter).2 := by
  simp only [bindSetter]
  obtain ⟨verdict, j⟩ := b.policy.validateSetter b.subject valueType getter setter
  cases verdict with
  | accept => rfl
  | reject => rfl

variable {b} in
/-- The setter that `bindSetter` keeps is the one that was asked about. -/
theorem eq_of_bindSetter_eq_some {valueType : TypeName} {getter setter : Accessor} {s : Method}
    (h : (b.bindSetter valueType getter (some setter)).1 = some s) : s = setter.mostSpecific := by
  rcases hasked : b.policy.validateSetter b.subject valueType getter setter with ⟨verdict, j⟩
  simp only [bindSetter, hasked] at h
  cases verdict with
  | accept => exact (Option.some.inj h).symm
  | reject => exact absurd h (by simp)

/-- `boundOutcome residue getter`: the outcome of getters that are bound to their property. -/
def boundOutcome (residue : String) (getter : Accessor) : GroupOutcome where
  property := some (b.propertyOf residue getter)
  handled := getter.declarations ++ ((b.setterOf residue).map Accessor.declarations).getD []
  journal := (b.policy.classifyState b.subject getter).2 ++
    (b.bindSetter getter.mostSpecific.returnType getter (b.setterOf residue)).2

/-- `Bindable b kind getters getter`: the conditions under which `getters` are bound as they are. -/
structure Bindable (kind : GetterKind) (getters : List Method) (getter : Accessor) : Prop where
  made : Accessor.ofDeclarations? b.hierarchy getters = some getter
  parameterless : getter.mostSpecific.parameterTypes = []
  boolean : kind = .is → b.types.isBoolean getter.mostSpecific.returnType = true

variable {b} in
/-- Getters that are `Bindable` are bound. -/
theorem bindProperty_of_bindable {kind : GetterKind} {residue : String} {getters : List Method}
    {getter : Accessor} (h : b.Bindable kind getters getter) :
    b.bindProperty kind residue getters = b.boundOutcome residue getter := by
  have harity : ¬ getter.mostSpecific.arity ≠ 0 := by
    rw [ne_eq, Method.arity_eq_zero_iff]
    exact fun hne => hne h.parameterless
  have hbool : ¬ (kind = .is ∧ (!b.types.isBoolean getter.mostSpecific.returnType) = true) := by
    rintro ⟨hk, hnot⟩
    rw [h.boolean hk] at hnot
    exact absurd hnot (by decide)
  unfold bindProperty
  simp only [h.made]
  rw [if_neg harity, if_neg hbool]
  rfl

/-- **By `bindProperty` getters are refused, or bound to their property.** -/
theorem bindProperty_cases (kind : GetterKind) (residue : String) (getters : List Method) :
    (∃ getter, b.Bindable kind getters getter ∧
        b.bindProperty kind residue getters = b.boundOutcome residue getter) ∨
      (∃ m ∈ getters, ∃ message, b.bindProperty kind residue getters = b.refuse m message) ∨
      getters = [] ∧ b.bindProperty kind residue getters = ∅ := by
  cases hmade : Accessor.ofDeclarations? b.hierarchy getters with
  | none =>
    have hnil : getters = [] := Classical.not_not.1 fun hne => by
      obtain ⟨a, ha⟩ := Accessor.exists_ofDeclarations? b.hierarchy hne
      rw [hmade] at ha
      exact absurd ha (by simp)
    refine .inr (.inr ⟨hnil, ?_⟩)
    unfold bindProperty
    rw [hmade]
  | some getter =>
    -- Parameters are looked at before the type; either objection is to the most specific getter.
    have hmem : getter.mostSpecific ∈ getters :=
      TypeHierarchy.mem_of_mostSpecific? (Accessor.mostSpecific?_eq hmade)
    by_cases harity : getter.mostSpecific.arity ≠ 0
    · refine .inr (.inl ⟨_, hmem, "getter methods cannot take parameters", ?_⟩)
      unfold bindProperty
      simp only [hmade]
      rw [if_pos harity]
    · by_cases hbool : kind = .is ∧ (!b.types.isBoolean getter.mostSpecific.returnType) = true
      · refine .inr (.inl ⟨_, hmem, "getter method name must start with 'get'", ?_⟩)
        unfold bindProperty
        simp only [hmade]
        rw [if_neg harity, if_pos hbool]
      · have hbind : b.Bindable kind getters getter :=
          { made := hmade
            parameterless := by simpa using harity
            boolean := fun hk => by simpa [hk] using hbool }
        exact .inl ⟨getter, hbind, bindProperty_of_bindable hbind⟩

/-- A property of `bindProperty` comes of `Bindable` getters only. -/
theorem bindProperty_property_eq_some_iff {kind : GetterKind} {residue : String}
    {getters : List Method} {p : BoundProperty} :
    (b.bindProperty kind residue getters).property = some p ↔
      ∃ getter, b.Bindable kind getters getter ∧ p = b.propertyOf residue getter := by
  constructor
  · intro h
    rcases b.bindProperty_cases kind residue getters with ⟨a, ha, heq⟩ | ⟨m, -, msg, heq⟩ | ⟨-, heq⟩
    · rw [heq] at h
      exact ⟨a, ha, (Option.some.inj h).symm⟩
    · rw [heq] at h
      exact absurd h (by simp)
    · rw [heq] at h
      exact absurd h (by simp)
  · rintro ⟨a, ha, rfl⟩
    rw [bindProperty_of_bindable ha]
    rfl

@[simp] theorem bindProperty_absorbed (kind : GetterKind) (residue : String)
    (getters : List Method) : (b.bindProperty kind residue getters).absorbed = none := by
  rcases b.bindProperty_cases kind residue getters with ⟨a, -, heq⟩ | ⟨m, -, msg, heq⟩ | ⟨-, heq⟩
  · rw [heq]; rfl
  · rw [heq]; rfl
  · rw [heq]; rfl

/-! ## Twins -/

/-- `mergeTwin`: merges the `get` getters of a residue with what remains of its `is` getters. -/
def mergeTwin (residue : String) (primary : Method) (getters twins : List Method) :
    GroupOutcome :=
  match b.hierarchy.mostSpecific? twins with
  | none => b.bindProperty .get residue getters
  | some twin =>
    if b.types.isBoolean primary.returnType && b.types.isBoolean twin.returnType then
      b.bindProperty .get residue (getters ++ twins)
    else b.refuse twin (dualMismatchMessage residue)

/-- Without `twins` the getters are bound alone. -/
theorem mergeTwin_nil (residue : String) (primary : Method) (getters : List Method) :
    b.mergeTwin residue primary getters [] = b.bindProperty .get residue getters := rfl

variable {b} in
/-- With `twins` the getters are bound together, or the twin is refused and neither is bound. -/
theorem mergeTwin_of_mostSpecific? {residue : String} {primary twin : Method}
    {getters twins : List Method} (ht : b.hierarchy.mostSpecific? twins = some twin) :
    b.mergeTwin residue primary getters twins =
      if b.types.isBoolean primary.returnType && b.types.isBoolean twin.returnType then
        b.bindProperty .get residue (getters ++ twins)
      else b.refuse twin (dualMismatchMessage residue) := by
  unfold mergeTwin
  rw [ht]

variable {b} {methods : List Method} (hb : b.groups = .ofMethods methods)

include hb

/-- The setter that `setterOf` finds is made of the methods of the `setterName`. -/
theorem setterOf_eq (residue : String) :
    b.setterOf residue =
      Accessor.ofDeclarations? b.hierarchy (methodsNamed (setterName residue) methods) := by
  rw [setterOf, hb, AccessorGroups.get?_ofMethods]
  by_cases hnil : methodsNamed (setterName residue) methods = []
  · rw [if_pos hnil, hnil]
    rfl
  · rw [if_neg hnil]
    rfl

/-- `boundOutcome` accounts for its getters and for the methods of the `setterName`. -/
theorem mem_handled_boundOutcome {residue : String} {getters : List Method} {a : Accessor}
    {m : Method} (ha : Accessor.ofDeclarations? b.hierarchy getters = some a) :
    m ∈ (b.boundOutcome residue a).handled ↔
      m ∈ getters ∨ m ∈ methodsNamed (setterName residue) methods := by
  have hsetter : ((b.setterOf residue).map Accessor.declarations).getD [] =
      methodsNamed (setterName residue) methods := by
    rw [setterOf_eq hb]
    cases hs : Accessor.ofDeclarations? b.hierarchy (methodsNamed (setterName residue) methods) with
    | none =>
      refine Eq.symm (Classical.byContradiction fun hne => ?_)
      obtain ⟨setter, hsome⟩ := Accessor.exists_ofDeclarations? b.hierarchy hne
      rw [hs] at hsome
      exact absurd hsome (by simp)
    | some setter => exact Accessor.declarations_eq hs
  rw [boundOutcome, List.mem_append, Accessor.declarations_eq ha, hsetter]

/-- **By `bindWithDual` the `is` twin is settled with its `get` getter, whether or not there is such
a group.** -/
theorem bindWithDual_eq (residue : String) (primary : Method) (getters : List Method) :
    b.bindWithDual residue primary getters =
      let twin := b.withoutOverloads (methodsNamed (getterName .is residue) methods)
      ((b.mergeTwin residue primary getters twin.kept).after twin.handled twin.journal).absorbing
        (if methodsNamed (getterName .is residue) methods = [] then none
          else some (getterName .is residue)) := by
  unfold bindWithDual
  rw [hb, AccessorGroups.get?_ofMethods, dualName_eq]
  by_cases hnil : methodsNamed (getterName .is residue) methods = []
  · -- Without a group nothing is kept, handled or reported of it.
    have htwin : b.withoutOverloads [] = { kept := [] } := rfl
    rw [if_pos hnil, if_pos hnil, hnil, htwin, ← b.bindProperty_absorbed .get residue getters]
    rfl
  · rw [if_neg hnil, if_neg hnil]
    rfl

/-! ## Groups by their names -/

omit hb

/-- `settle` treats the group of a name as `isAccessorName` says. -/
theorem settle_ofMethods (b : Binder) (name : String) (methods : List Method) :
    b.settle (.ofMethods name methods) =
      if isAccessorName name then b.settleAccessor name (methodsNamed name methods)
      else b.settleOrdinary (methodsNamed name methods) := rfl

/-- **The getters of a valid name go on to be bound without their `overloads`.** -/
theorem settle_getter {kind : GetterKind} {residue : String} {primary : Method}
    (hw : isWellFormedResidue residue = true)
    (hp : b.hierarchy.mostSpecific?
      (unambiguous (methodsNamed (getterName kind residue) methods)) = some primary) :
    b.settle (.ofMethods (getterName kind residue) methods) =
      let group := b.withoutOverloads (methodsNamed (getterName kind residue) methods)
      (b.bindGetter kind residue primary group.kept).after group.handled group.journal := by
  have hacc := isAccessorName_getterName kind (ne_empty_of_isWellFormedResidue hw)
  have hclass : GetterName.classify (getterName kind residue) = .valid kind residue :=
    classify_eq_valid_iff.2 ⟨rfl, hw⟩
  rw [settle_ofMethods, if_pos hacc, settleAccessor]
  simp only [withoutOverloads_kept, hp, hclass]

/-- Any other accessor name is refused or left alone by `settle` once its overloads are reported. -/
theorem settle_other (b : Binder) (methods : List Method) {name : String}
    (hacc : isAccessorName name = true)
    (hother : ∀ kind residue, GetterName.classify name = .valid kind residue →
      b.hierarchy.mostSpecific? (unambiguous (methodsNamed name methods)) = none) :
    ∃ o, b.settle (.ofMethods name methods) =
        GroupOutcome.after (b.withoutOverloads (methodsNamed name methods)).handled
          (b.withoutOverloads (methodsNamed name methods)).journal o ∧
      o.property = none ∧ o.absorbed = none := by
  rw [settle_ofMethods, if_pos hacc, settleAccessor]
  refine ⟨_, rfl, ?_⟩
  rw [withoutOverloads_kept]
  cases htop : b.hierarchy.mostSpecific? (unambiguous (methodsNamed name methods)) with
  | none => exact ⟨rfl, rfl⟩
  | some primary =>
    -- A valid name of which something remains is none of these.
    cases hclass : GetterName.classify name with
    | notGetter => exact ⟨rfl, rfl⟩
    | malformed kind => exact ⟨rfl, rfl⟩
    | valid kind residue =>
      have hnone := hother kind residue hclass
      rw [htop] at hnone
      exact absurd hnone (by simp)

/-- The methods of any other name are accounted for by `settleOrdinary`, as override chains and
overloads. -/
theorem settle_ordinary {name : String} (hacc : isAccessorName name = false) :
    b.settle (.ofMethods name methods) = b.settleOrdinary (methodsNamed name methods) := by
  rw [settle_ofMethods, hacc]
  rfl

/-- Outside override chains `settleOrdinary` accounts for methods as `withoutOverloads` does. -/
theorem settleOrdinary_eq (b : Binder) (methods : List Method) :
    b.settleOrdinary methods =
      let rest := b.withoutOverloads (methods.filter (· ∉ (overrideChains methods).flatten))
      ((∅ : GroupOutcome).after rest.handled rest.journal).after (overrideChains methods).flatten
        (if overrideChains methods = [] then ∅
          else b.policy.overriddenMethods b.subject (overrideChains methods)) := by
  unfold settleOrdinary
  cases overrideChains methods with
  | nil =>
    have hall : methods.filter (· ∉ ([] : List (List Method)).flatten) = methods :=
      List.filter_eq_self.2 fun m _ => by simp
    simp only [hall]
    rfl
  | cons first rest => rfl

/-- The outcome of `settleOrdinary` has no property and absorbs no other group. -/
theorem settleOrdinary_property (b : Binder) (methods : List Method) :
    (b.settleOrdinary methods).property = none ∧ (b.settleOrdinary methods).absorbed = none := by
  rw [settleOrdinary_eq]
  exact ⟨rfl, rfl⟩

include hb in
/-- Each of the `outcomes` is that of `settle` for a name outside `absorbedNames`. -/
theorem mem_outcomes_iff {o : GroupOutcome} :
    o ∈ b.outcomes ↔
      ∃ name ∈ methods.map Method.name, name ∉ b.absorbedNames ∧
        b.settle (.ofMethods name methods) = o := by
  unfold outcomes
  simp only [List.mem_map, List.mem_filter, decide_eq_true_eq, hb, AccessorGroups.mem_ofMethods]
  constructor
  · rintro ⟨g, ⟨⟨name, hname, rfl⟩, habs⟩, ho⟩
    exact ⟨name, hname, habs, ho⟩
  · rintro ⟨name, hname, habs, ho⟩
    exact ⟨_, ⟨⟨name, hname, rfl⟩, habs⟩, ho⟩

end Binder

end AccessorSchema
