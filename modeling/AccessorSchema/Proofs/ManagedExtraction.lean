import Mathlib
import AccessorSchema.Policy.Managed
import AccessorSchema.Proofs.BoundProperty
import AccessorSchema.Proofs.Coverage

/-!
# Silent extractions of managed structs

The policy for managed structs reports an error wherever a method without implementation is not
made part of a property. Read backwards, an extraction without errors has found a place for every
such method.

* **`Journal.Silent`** — a journal without errors, and for each hook of the policy what its silence
  says (`silent_overriddenMethods_iff`, `silent_validateSetter_iff`, …);
* **`BoundProperty.Binds`** — a method belongs to a property, as getter or as setter;
* `Extractor.hasErrors_managed_eq_false_iff` — where an extraction without errors is silent;
* **`Extractor.managed_sound_of_silent`** — without errors every method that has no implementation
  belongs to a property.
-/

namespace AccessorSchema

/-! ## Silence -/

/-- `Silent j`: nothing that the journal `j` holds is an error. -/
def Journal.Silent (j : Journal) : Prop := ∀ d ∈ j.diagnostics, d.isError = false

namespace Journal

variable {j k : Journal}

@[simp] theorem silent_empty : (∅ : Journal).Silent := fun _ hd => absurd hd List.not_mem_nil

@[simp] theorem silent_append : (j ++ k).Silent ↔ j.Silent ∧ k.Silent := by
  unfold Silent
  rw [diagnostics_append, List.forall_mem_append]

@[simp] theorem silent_concat {l : List Journal} :
    (Journal.concat l).Silent ↔ ∀ j ∈ l, j.Silent := by
  unfold Silent concat
  simp only [List.mem_flatMap]
  constructor
  · intro h j hj d hd
    exact h d ⟨j, hj, hd⟩
  · rintro h d ⟨j, hj, hd⟩
    exact h j hj d hd

/-- A `Journal.error` is not `Silent`. -/
@[simp] theorem not_silent_error (kind : DiagnosticKind) (subject : TypeName)
    (methods : List Method) (message : String) :
    ¬ (Journal.error kind subject methods message).Silent := by
  intro h
  have herror := h _ List.mem_cons_self
  exact absurd herror (by simp [Diagnostic.isError])

/-- What is reported within a `Silent` journal is `Silent`. -/
theorem Silent.mono (hk : k.Silent) (hsub : j.diagnostics ⊆ k.diagnostics) : j.Silent :=
  fun d hd => hk d (hsub hd)

end Journal

/-- An extraction has no errors exactly if its `journal` is `Silent`. -/
theorem Extraction.hasErrors_eq_false_iff {e : Extraction} :
    e.hasErrors = false ↔ e.journal.Silent := by
  unfold hasErrors diagnostics Journal.Silent
  rw [List.any_eq_false]
  simp only [Bool.not_eq_true]

/-! ## What the silence of a hook says -/

section Hooks

variable {types : TypeSettings} {subject : TypeName}

/-- Nothing is said by `validateHierarchy` of a target that is no `concreteClass`. -/
theorem silent_validateHierarchy_iff {target : TypeDescriptor} :
    ((Policy.managed types).validateHierarchy target).Silent ↔ target.kind ≠ .concreteClass := by
  show (if target.kind = .concreteClass then _ else (∅ : Journal)).Silent ↔ _
  by_cases hk : target.kind = .concreteClass
  · rw [if_pos hk]
    simp [hk]
  · rw [if_neg hk]
    simp [hk]

/-- What `overloadedMethods` says is always an error. -/
theorem not_silent_overloadedMethods (methods : List Method) :
    ¬ ((Policy.managed types).overloadedMethods subject methods).Silent :=
  Journal.not_silent_error _ _ _ _

/-- **Nothing is said by `overriddenMethods` of chains that are implemented throughout.** -/
theorem silent_overriddenMethods_iff {chains : List (List Method)} :
    ((Policy.managed types).overriddenMethods subject chains).Silent ↔
      ∀ chain ∈ chains, ∀ m ∈ chain, m.isConcrete = true := by
  simp only [Policy.managed, Journal.silent_concat, List.forall_mem_map]
  refine forall_congr' fun chain => forall_congr' fun _ => ?_
  rw [← List.all_eq_true]
  by_cases hall : chain.all Method.isConcrete = true
  · rw [if_pos hall]
    simp [hall]
  · rw [if_neg hall]
    simp [hall]

/-- **Nothing is said by `validateSetter` of a setter without `setterProblems`.** -/
theorem silent_validateSetter_iff {valueType : TypeName} {getter setter : Accessor} :
    ((Policy.managed types).validateSetter subject valueType getter setter).2.Silent ↔
      setterProblems types valueType getter.mostSpecific setter.mostSpecific = [] := by
  simp only [Policy.managed]
  cases hproblems : setterProblems types valueType getter.mostSpecific setter.mostSpecific with
  | nil => simp
  | cons reason rest => simp

/-- A setter without `setterProblems` is accepted. -/
theorem validateSetter_of_setterProblems_eq_nil {valueType : TypeName} {getter setter : Accessor}
    (h : setterProblems types valueType getter.mostSpecific setter.mostSpecific = []) :
    (Policy.managed types).validateSetter subject valueType getter setter = (.accept, ∅) := by
  simp only [Policy.managed, h]

/-- **A setter has no `setterProblems` exactly if** it takes the `valueType` and nothing else,
returns the type that setters return, and has no implementation unless the `getter` has one. -/
theorem setterProblems_eq_nil_iff {valueType : TypeName} {getter setter : Method} :
    setterProblems types valueType getter setter = [] ↔
      setter.parameterTypes = [valueType] ∧ types.isVoid setter.returnType = true ∧
        (setter.isConcrete = true → getter.isConcrete = true) := by
  have hconcrete : (!getter.isConcrete && setter.isConcrete) = true ↔
      ¬ (setter.isConcrete = true → getter.isConcrete = true) := by
    cases getter.isConcrete <;> cases setter.isConcrete <;> decide
  unfold setterProblems
  simp only [List.append_eq_nil_iff, hconcrete]
  -- The first and the third of the problems are about the list of parameters.
  rcases hparameters : setter.parameterTypes with _ | ⟨p, _ | ⟨q, rest⟩⟩
  · simp [Method.arity, hparameters]
  · simp [Method.arity, hparameters, and_assoc, and_left_comm]
  · simp [Method.arity, hparameters]

/-- Nothing is said by `incompleteCoverage` of methods that all have an implementation. -/
theorem silent_incompleteCoverage_iff {all unhandled : List Method} :
    ((Policy.managed types).incompleteCoverage subject all unhandled).2.Silent ↔
      ∀ m ∈ unhandled, m.isConcrete = true := by
  have hnone : (unhandled.filter (!·.isConcrete)).isEmpty = true ↔
      ∀ m ∈ unhandled, m.isConcrete = true := by
    rw [List.isEmpty_iff, List.filter_eq_nil_iff]
    simp
  show (if _ then (∅ : Journal) else _).Silent ↔ _
  rw [← hnone]
  by_cases hempty : (unhandled.filter (!·.isConcrete)).isEmpty = true
  · rw [if_pos hempty]
    simp [hempty]
  · rw [if_neg hempty]
    simp [hempty]

/-- Nothing is said by `checkCoverage` if all `leftovers` have an implementation. -/
theorem silent_checkCoverage_iff {all : List Method} {handled : OrderedSet Method} :
    (checkCoverage (Policy.managed types) subject all handled).2.Silent ↔
      ∀ m ∈ leftovers all handled, m.isConcrete = true := by
  unfold checkCoverage
  cases hrest : leftovers all handled with
  | nil => simp
  | cons d rest =>
    show ((Policy.managed types).incompleteCoverage subject all (d :: rest)).2.Silent ↔ _
    exact silent_incompleteCoverage_iff

/-- Of the `leftovers`, those with an implementation are among `excusedMethods`. -/
theorem mem_excusedMethods_managed {all : List Method} {handled : OrderedSet Method} {m : Method} :
    m ∈ excusedMethods (Policy.managed types) subject all handled ↔
      m ∈ leftovers all handled ∧ m.isConcrete = true := by
  show m ∈ OrderedSet.ofList ((leftovers all handled).filter Method.isConcrete) ↔ _
  rw [OrderedSet.mem_ofList, List.mem_filter]

end Hooks

/-! ## Methods that belong to a property -/

namespace BoundProperty

/-- `HasResidue p residue`: all getters of the property `p`, of which there are some, are named
after the `residue`. -/
def HasResidue (p : BoundProperty) (residue : String) : Prop :=
  p.getterBindings ≠ [] ∧ ∀ g ∈ p.getterBindings, ∃ kind, g.name = getterName kind residue

/-- **`Binds p d`**: the method `d` is named like one of the getters of `p`, or it is named like the
setter of its residue, a setter is bound, and `d` takes exactly the `valueType`. -/
def Binds (p : BoundProperty) (d : Method) : Prop :=
  (∃ g ∈ p.getterBindings, g.name = d.name) ∨
    ∃ residue, p.HasResidue residue ∧ d.name = setterName residue ∧
      p.setterBinding.isSome = true ∧ d.parameterTypes = [p.valueType]

end BoundProperty

namespace Binder

variable {b : Binder} {methods : List Method} {o : GroupOutcome} {residue : String}
  {getter : Accessor} {d : Method}

/-- What one of the `outcomes` binds is one of the `properties`. -/
theorem Produces.mem_properties (h : b.Produces methods o residue getter) (ho : o ∈ b.outcomes) :
    b.propertyOf residue getter ∈ b.bind.properties :=
  List.mem_filterMap.2 ⟨o, ho, h.property⟩

/-- For each of its `declarations` a property keeps a getter of that name. -/
theorem Produces.exists_mem_getterBindings (h : b.Produces methods o residue getter)
    (hd : d ∈ getter.declarations) :
    ∃ g ∈ (b.propertyOf residue getter).getterBindings, g.name = d.name := by
  obtain ⟨g, hg, hname, -⟩ := Accessor.exists_mem_getters h.made hd
  exact ⟨g, hg, hname⟩

/-- Getters that are named after a residue make a property that `HasResidue` it. -/
theorem hasResidue_propertyOf {h : TypeHierarchy} {getters : List Method} {a : Accessor}
    (ha : Accessor.ofDeclarations? h getters = some a)
    (hnamed : ∀ d ∈ getters, ∃ kind, d.name = getterName kind residue) :
    (b.propertyOf residue a).HasResidue residue := by
  have htop : a.mostSpecific ∈ getters :=
    TypeHierarchy.mem_of_mostSpecific? (Accessor.mostSpecific?_eq ha)
  obtain ⟨g, hg, -⟩ := Accessor.exists_mem_getters ha htop
  exact ⟨List.ne_nil_of_mem hg, fun g' hg' => hnamed g' (Accessor.getters_subset ha hg')⟩

/-- The property that an outcome `Produces` has the residue it was bound by. -/
theorem Produces.hasResidue (h : b.Produces methods o residue getter) :
    (b.propertyOf residue getter).HasResidue residue :=
  hasResidue_propertyOf h.made fun d hd => (h.named d hd).2

variable {types : TypeSettings} (hpolicy : b.policy = .managed types)

include hpolicy

/-- A setter on which `bindSetter` is `Silent` is bound, and takes exactly the `valueType`. -/
theorem bindSetter_of_silent {valueType : TypeName} {setter : Accessor}
    (hs : (b.bindSetter valueType getter (some setter)).2.Silent) :
    (b.bindSetter valueType getter (some setter)).1 = some setter.mostSpecific ∧
      setter.mostSpecific.parameterTypes = [valueType] := by
  rw [bindSetter_journal, hpolicy, silent_validateSetter_iff] at hs
  constructor
  · simp only [bindSetter, hpolicy, validateSetter_of_setterProblems_eq_nil hs]
  · exact (setterProblems_eq_nil_iff.1 hs).1

variable (hb : b.groups = .ofMethods methods) (hsilent : ∀ o ∈ b.outcomes, o.journal.Silent)

include hb hsilent

/-- **Setters have no `overloads` where the outcomes are `Silent`.** No other group settles that of
a setter, so its overloads are reported on their own. -/
theorem overloads_setter_eq_nil (hw : isWellFormedResidue residue = true)
    (hd : d ∈ methodsNamed (setterName residue) methods) :
    overloads (methodsNamed (setterName residue) methods) = [] := by
  by_cases ho : overloads (methodsNamed (setterName residue) methods) = []
  · exact ho
  · have habs : setterName residue ∉ b.absorbedNames := by
      intro habs
      obtain ⟨r, -, -, -, heq⟩ := (mem_absorbedNames_iff hb).1 habs
      exact getterName_ne_setterName .is r residue heq.symm
    obtain ⟨hmem, hname⟩ := mem_methodsNamed.1 hd
    have hout : b.settle (.ofMethods (setterName residue) methods) ∈ b.outcomes :=
      (mem_outcomes_iff hb).2 ⟨_, hname ▸ List.mem_map_of_mem hmem, habs, rfl⟩
    obtain ⟨o, -, hsettles⟩ := exists_settles hb (hname ▸ List.mem_map_of_mem hmem) habs
      (isAccessorName_setterName (ne_empty_of_isWellFormedResidue hw))
    have hs := hsilent _ hout
    rw [hsettles.journal, Journal.silent_append, Journal.silent_concat, List.forall_mem_map] at hs
    -- The report on the overloads would be part of the group's journal.
    have hreport := hs.1 _ (mem_settledNames.2 (.inl rfl))
    rw [resolved, journal_withoutOverloads_of_ne_nil b ho, hpolicy] at hreport
    exact absurd hreport (not_silent_overloadedMethods _)

/-- The methods of the `setterName` of a bound property are those that it `Binds` where the outcomes
are `Silent`. -/
theorem binds_setter (h : b.Produces methods o residue getter) (ho : o ∈ b.outcomes)
    (hd : d ∈ methodsNamed (setterName residue) methods) :
    (b.propertyOf residue getter).Binds d := by
  have hname : d.name = setterName residue := (mem_methodsNamed.1 hd).2
  obtain ⟨setter, hmade⟩ := Accessor.exists_ofDeclarations? b.hierarchy (List.ne_nil_of_mem hd)
  have hsetter : b.setterOf residue = some setter := by rw [setterOf_eq hb, hmade]
  have hreport := (hsilent o ho).mono h.reported
  rw [hsetter] at hreport
  obtain ⟨hbound, htype⟩ := bindSetter_of_silent hpolicy hreport
  refine .inr ⟨residue, h.hasResidue, hname, ?_, ?_⟩
  · show (b.bindSetter getter.mostSpecific.returnType getter (b.setterOf residue)).1.isSome = true
    rw [hsetter, hbound]
    rfl
  · -- All setters have the parameters of the one that was asked about.
    have hover := overloads_setter_eq_nil hpolicy hb hsilent h.wellFormed hd
    have htop : setter.mostSpecific ∈ methodsNamed (setterName residue) methods :=
      TypeHierarchy.mem_of_mostSpecific? (Accessor.mostSpecific?_eq hmade)
    rw [(overloads_eq_nil_iff.1 hover d hd _ htop).2, htype]
    rfl

/-- **Where the outcomes are `Silent`, a method without implementation that is accounted for belongs
to a property**, which `Binds` it. Overloads always have an error, and so do override chains with
such a method. -/
theorem exists_binds_of_accounts (ho : o ∈ b.outcomes) (hacc : b.Accounts methods o d)
    (hd : d.isConcrete = false) : ∃ p ∈ b.bind.properties, p.Binds d := by
  have hs := hsilent o ho
  cases hacc with
  | overridden chain_mem mem reported =>
    have hreport := hs.mono reported
    rw [hpolicy, silent_overriddenMethods_iff] at hreport
    rw [hreport _ chain_mem d mem] at hd
    exact absurd hd (by decide)
  | overloaded _ _ _ reported =>
    have hreport := hs.mono reported
    rw [hpolicy] at hreport
    exact absurd hreport (not_silent_overloadedMethods _)
  | getter produces mem =>
    exact ⟨_, produces.mem_properties ho, .inl (produces.exists_mem_getterBindings mem)⟩
  | setter produces mem =>
    exact ⟨_, produces.mem_properties ho, binds_setter hpolicy hb hsilent produces ho mem⟩

end Binder

/-- The property that `BindsGetters` gives for a residue has that residue. -/
theorem BindsGetters.hasResidue {h : TypeHierarchy} {types : TypeSettings}
    {methods getters : List Method} {residue : String} {a : Accessor}
    (hbinds : BindsGetters h types methods residue getters)
    (ha : Accessor.ofDeclarations? h getters = some a) (b : Binder) :
    (b.propertyOf residue a).HasResidue residue :=
  Binder.hasResidue_propertyOf ha fun _ hd => (hbinds.named hd).2

/-! ## Extractions without errors -/

namespace Extractor

/-- The extractor of managed structs; the policy has `policyTypes`, and the binder `types`, for
built-in types. -/
def managed (policyTypes types : TypeSettings) (h : TypeHierarchy) : Extractor where
  policy := .managed policyTypes
  hierarchy := h
  types := types

variable {policyTypes types : TypeSettings} {h : TypeHierarchy} {m : MethodSet}

/-- **`hasErrors` is false exactly if target, groups and `leftovers` were found in order.** -/
theorem hasErrors_managed_eq_false_iff :
    ((managed policyTypes types h).extract m).hasErrors = false ↔
      m.target.kind ≠ .concreteClass ∧
        (∀ o ∈ ((managed policyTypes types h).binder m).outcomes, o.journal.Silent) ∧
          ∀ d ∈ leftovers m.methods ((managed policyTypes types h).binder m).bind.handled,
            d.isConcrete = true := by
  rw [Extraction.hasErrors_eq_false_iff]
  simp only [extract, Journal.silent_append]
  constructor
  · rintro ⟨⟨⟨htarget, hbinding⟩, hcoverage⟩, -⟩
    refine ⟨silent_validateHierarchy_iff.1 htarget, fun o ho => ?_, ?_⟩
    · exact Journal.silent_concat.1 hbinding _ (List.mem_map_of_mem ho)
    · exact silent_checkCoverage_iff.1 hcoverage
  · rintro ⟨htarget, hbinding, hcoverage⟩
    -- Aspects are not read, so that nothing is said of them.
    refine ⟨⟨⟨silent_validateHierarchy_iff.2 htarget, ?_⟩, ?_⟩, Journal.silent_empty⟩
    · exact Journal.silent_concat.2 (List.forall_mem_map.2 hbinding)
    · exact silent_checkCoverage_iff.2 hcoverage

/-- Nothing stays `unhandled` where all `leftovers` have an implementation. -/
theorem unhandled_managed_eq_nil
    (hleft : ∀ d ∈ leftovers m.methods ((managed policyTypes types h).binder m).bind.handled,
      d.isConcrete = true) : ((managed policyTypes types h).extract m).unhandled = [] := by
  rw [extract_unhandled, checkCoverage_unhandled, List.filter_eq_nil_iff]
  intro d hd
  rw [decide_eq_true_eq]
  intro hnot
  exact hnot (mem_excusedMethods_managed.2 ⟨hd, hleft d hd⟩)

/-- **An extraction of a managed struct without errors is sound.** If `hasErrors` is false, the
target is no `concreteClass`, nothing stays `unhandled`, and for every method that has no
implementation there is a property that `Binds` it. -/
theorem managed_sound_of_silent
    (hs : ((managed policyTypes types h).extract m).hasErrors = false) :
    m.target.kind ≠ .concreteClass ∧
      ((managed policyTypes types h).extract m).unhandled = [] ∧
      ∀ d ∈ m.methods, d.isConcrete = false →
        ∃ p ∈ ((managed policyTypes types h).extract m).properties, p.Binds d := by
  obtain ⟨htarget, hsilent, hleft⟩ := hasErrors_managed_eq_false_iff.1 hs
  refine ⟨htarget, unhandled_managed_eq_nil hleft, fun d hd hconcrete => ?_⟩
  -- Only methods with an implementation are excused, so that `d` was handled by some group.
  have hhandled : d ∈ ((managed policyTypes types h).binder m).bind.handled := by
    by_cases hnot : d ∈ ((managed policyTypes types h).binder m).bind.handled
    · exact hnot
    · rw [hleft d (mem_leftovers.2 ⟨hd, hnot⟩)] at hconcrete
      exact absurd hconcrete (by decide)
  obtain ⟨o, ho, hacc⟩ := Binder.accounts_of_mem_bind_handled
    ((managed policyTypes types h).binder_groups m) hhandled
  exact Binder.exists_binds_of_accounts rfl ((managed policyTypes types h).binder_groups m)
    hsilent ho hacc hconcrete

/-- A property with a getter, which the supertype `B` declares as well, and a setter. -/
def point : MethodSet where
  target := { name := "P", supertypes := ["B"] }
  methods :=
    [{ name := "getX", declaringType := "P", returnType := "int" },
      { name := "setX", declaringType := "P", returnType := "void", parameterTypes := ["int"] },
      { name := "getX", declaringType := "B", returnType := "int" }]

/-- All accessors of `point` belong to its property, as `managed_sound_of_silent` has it. -/
theorem point_sound :
    ((managed {} {} (.ofDeclarations [("P", ["B"])])).extract point).hasErrors = false ∧
      ∀ d ∈ point.methods, d.isConcrete = false →
        ∃ p ∈ ((managed {} {} (.ofDeclarations [("P", ["B"])])).extract point).properties,
          p.Binds d := by
  have hs : ((managed {} {} (.ofDeclarations [("P", ["B"])])).extract point).hasErrors = false := by
    cbv
  exact ⟨hs, (managed_sound_of_silent hs).2.2⟩

end Extractor

end AccessorSchema
