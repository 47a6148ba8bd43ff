import AccessorSchema.Policy.Managed
import AccessorSchema.Proofs.Coverage

/-!
# Where diagnostics come from

The rules of extraction raise no diagnostic of their own: each comes of a hook of the policy or of
the aspect reader, and the methods a hook is asked about are methods that were given.

* **`Binder.Raises`**, **`Extractor.Raises`** — the hooks that can have raised a diagnostic, with
  what they were asked;
* **`Binder.raises_of_mem_bind`**, **`Extractor.raises_of_mem_diagnostics`** — there is no other
  source;
* **`Binder.Raises.of_managed`** — the rules that the policy for managed structs applies while
  properties are bound; `Extractor.isError_or_mem_aspects_of_managed` — it raises errors only.
-/

namespace AccessorSchema

/-- What a `Journal.error` holds is an error of its `kind`. -/
theorem Journal.isError_of_mem_error {kind : DiagnosticKind} {subject : TypeName}
    {methods : List Method} {message : String} {d : Diagnostic}
    (hd : d ∈ (Journal.error kind subject methods message).diagnostics) :
    d.isError = true ∧ d.kind = kind := by
  rw [List.mem_singleton.1 hd]
  exact ⟨rfl, rfl⟩

/-- `Among a methods`: the accessor `a` is made of methods of a list. -/
structure Accessor.Among (a : Accessor) (methods : List Method) : Prop where
  declarations : a.declarations ⊆ methods
  mostSpecific : a.mostSpecific ∈ methods

/-- An accessor of `ofDeclarations?` is made of its declarations. -/
theorem Accessor.among_of_made {h : TypeHierarchy} {declarations methods : List Method}
    {a : Accessor} (ha : Accessor.ofDeclarations? h declarations = some a)
    (hsub : declarations ⊆ methods) : a.Among methods where
  declarations := by rwa [declarations_eq ha]
  mostSpecific := hsub (TypeHierarchy.mem_of_mostSpecific? (mostSpecific?_eq ha))

/-! ## Binding -/

namespace Binder

/-- **`Raises b methods d`: the ways in which binding comes to raise a diagnostic `d`**, which a
hook does that is asked about methods of a list. -/
inductive Raises (b : Binder) (methods : List Method) (d : Diagnostic) : Prop
  /-- The hook `classifyState` is asked about a property. -/
  | state {getter : Accessor} (among : getter.Among methods)
      (raised : d ∈ (b.policy.classifyState b.subject getter).2.diagnostics)
  /-- The hook `validateSetter` is asked about the setter of a property. -/
  | setter {valueType : TypeName} {getter setter : Accessor} (getter_among : getter.Among methods)
      (setter_among : setter.Among methods)
      (raised : d ∈ (b.policy.validateSetter b.subject valueType getter setter).2.diagnostics)
  /-- The hook `invalidGetter` is told that a getter is refused. -/
  | getter {m : Method} {message : String} (mem : m ∈ methods)
      (raised : d ∈ (b.policy.invalidGetter b.subject m message).diagnostics)
  /-- The hook `overriddenMethods` is told of chains of methods. -/
  | overridden {chains : List (List Method)} (subset : ∀ chain ∈ chains, chain ⊆ methods)
      (raised : d ∈ (b.policy.overriddenMethods b.subject chains).diagnostics)
  /-- The hook `overloadedMethods` is told of methods. -/
  | overloaded {firsts : List Method} (subset : firsts ⊆ methods)
      (raised : d ∈ (b.policy.overloadedMethods b.subject firsts).diagnostics)

section

variable {b : Binder} {methods : List Method} {d : Diagnostic} {name : String}

/-- What `withoutOverloads` reports is raised about overloads. -/
theorem raises_of_mem_withoutOverloads {among : List Method} (hsub : among ⊆ methods)
    (hd : d ∈ (b.withoutOverloads among).journal.diagnostics) : b.Raises methods d := by
  by_cases ho : overloads among = []
  · rw [journal_withoutOverloads_of_eq_nil b ho] at hd
    exact absurd hd List.not_mem_nil
  · rw [journal_withoutOverloads_of_ne_nil b ho] at hd
    exact .overloaded (List.Subset.trans (overloads_subset among) hsub) hd

/-- What `settleOrdinary` reports is raised about override chains and about overloads. -/
theorem raises_of_mem_settleOrdinary {among : List Method} (hsub : among ⊆ methods)
    (hd : d ∈ (b.settleOrdinary among).journal.diagnostics) : b.Raises methods d := by
  rw [settleOrdinary_eq, GroupOutcome.after_journal, GroupOutcome.after_journal] at hd
  simp only [Journal.diagnostics_append, List.mem_append] at hd
  rcases hd with hchain | hrest | hnone
  · by_cases hnil : overrideChains among = []
    · rw [if_pos hnil] at hchain
      exact absurd hchain List.not_mem_nil
    · rw [if_neg hnil] at hchain
      exact .overridden (fun chain hc m hm => hsub (mem_of_mem_overrideChains hc hm)) hchain
  · -- Overloads are looked for outside the chains only.
    exact raises_of_mem_withoutOverloads (fun m hm => hsub (List.mem_filter.1 hm).1) hrest
  · exact absurd hnone List.not_mem_nil

variable (hb : b.groups = .ofMethods methods)

include hb

/-- The setter that `setterOf` finds is made of methods that were given. -/
theorem among_of_setterOf {residue : String} {setter : Accessor}
    (hs : b.setterOf residue = some setter) : setter.Among methods := by
  rw [setterOf_eq hb] at hs
  exact Accessor.among_of_made hs fun m hm => (mem_methodsNamed.1 hm).1

/-- What `boundOutcome` reports is raised about the state of the property and about its setter. -/
theorem raises_of_mem_boundOutcome {residue : String} {a : Accessor} (ha : a.Among methods)
    (hd : d ∈ (b.boundOutcome residue a).journal.diagnostics) : b.Raises methods d := by
  rw [boundOutcome, Journal.diagnostics_append, List.mem_append] at hd
  -- The state is decided first, and then the setter is looked at, if there is one.
  rcases hd with hstate | hsetter
  · exact .state ha hstate
  · cases hs : b.setterOf residue with
    | none =>
      rw [hs] at hsetter
      exact absurd hsetter List.not_mem_nil
    | some setter =>
      rw [hs, bindSetter_journal] at hsetter
      exact .setter ha (among_of_setterOf hb hs) hsetter

/-- What an outcome that `Decides` a group reports comes of the hook that was asked. -/
theorem Decides.raises {o : GroupOutcome} (h : b.Decides methods name o)
    (hd : d ∈ o.journal.diagnostics) : b.Raises methods d := by
  cases h with
  | bound _ binds made =>
    refine raises_of_mem_boundOutcome hb (Accessor.among_of_made made fun m hm => ?_) hd
    exact (binds.named hm).1
  | refused _ mem _ _ => exact .getter mem hd
  | nothing _ => exact absurd hd List.not_mem_nil

/-- **What `bind` reports is raised through hooks only**, asked about methods that were given. -/
theorem raises_of_mem_bind (hd : d ∈ b.bind.journal.diagnostics) : b.Raises methods d := by
  obtain ⟨j, hj, hmem⟩ := List.mem_flatMap.1 hd
  obtain ⟨o, ho, rfl⟩ := List.mem_map.1 hj
  obtain ⟨name, hname, habs, rfl⟩ := (mem_outcomes_iff hb).1 ho
  by_cases hacc : isAccessorName name = true
  · obtain ⟨o, hdecides, hsettles⟩ := exists_settles hb hname habs hacc
    rcases hsettles.mem_diagnostics_iff.1 hmem with ⟨n, -, hover⟩ | hdecided
    · exact raises_of_mem_withoutOverloads (fun m hm => (mem_methodsNamed.1 hm).1) hover
    · exact hdecides.raises hb hdecided
  · rw [settle_ordinary (by simpa using hacc)] at hmem
    exact raises_of_mem_settleOrdinary (fun m hm => (mem_methodsNamed.1 hm).1) hmem

end

end Binder

/-! ## Extraction -/

namespace Extractor

/-- **`Raises x m d`: the ways in which extraction comes to raise a diagnostic `d`.** -/
inductive Raises (x : Extractor) (m : MethodSet) (d : Diagnostic) : Prop
  /-- The type itself is looked at by `validateHierarchy`. -/
  | hierarchy (raised : d ∈ (x.policy.validateHierarchy m.target).diagnostics)
  /-- The methods of the type are bound to properties. -/
  | binding (raises : (x.binder m).Raises m.methods d)
  /-- Methods left over are told to `incompleteCoverage`. -/
  | coverage {unhandled : List Method} (subset : unhandled ⊆ m.methods)
      (raised : d ∈ (x.policy.incompleteCoverage m.target.name m.methods unhandled).2.diagnostics)
  /-- The `aspects` are read off the properties. -/
  | aspects (raised : d ∈ (x.aspects m.target.name (x.extract m).properties).2.diagnostics)

/-- The four parts of the `diagnostics` of `extract`, in order. -/
theorem diagnostics_extract (x : Extractor) (m : MethodSet) :
    (x.extract m).diagnostics =
      (x.policy.validateHierarchy m.target).diagnostics ++ (x.binder m).bind.journal.diagnostics ++
        (checkCoverage x.policy m.target.name m.methods (x.binder m).bind.handled).2.diagnostics ++
        (x.aspects m.target.name (x.extract m).properties).2.diagnostics := rfl

/-- What `checkCoverage` says is said by `incompleteCoverage` of the `leftovers`. -/
theorem mem_incompleteCoverage_of_mem_checkCoverage {policy : Policy} {subject : TypeName}
    {all : List Method} {handled : OrderedSet Method} {d : Diagnostic}
    (hd : d ∈ (checkCoverage policy subject all handled).2.diagnostics) :
    d ∈ (policy.incompleteCoverage subject all (leftovers all handled)).2.diagnostics := by
  unfold checkCoverage at hd
  cases hrest : leftovers all handled with
  | nil =>
    simp only [hrest] at hd
    exact absurd hd List.not_mem_nil
  | cons first rest =>
    simp only [hrest] at hd
    exact hd

/-- **What `extract` reports is raised through hooks and aspects only.** -/
theorem raises_of_mem_diagnostics {x : Extractor} {m : MethodSet} {d : Diagnostic}
    (hd : d ∈ (x.extract m).diagnostics) : x.Raises m d := by
  rw [diagnostics_extract, List.mem_append, List.mem_append, List.mem_append] at hd
  rcases hd with ((hd | hd) | hd) | hd
  · exact .hierarchy hd
  · exact .binding (Binder.raises_of_mem_bind (x.binder_groups m) hd)
  · have hsub : leftovers m.methods (x.binder m).bind.handled ⊆ m.methods :=
      fun a ha => (mem_leftovers.1 ha).1
    exact .coverage hsub (mem_incompleteCoverage_of_mem_checkCoverage hd)
  · exact .aspects hd

end Extractor

/-! ## Managed structs -/

section Managed

variable {types : TypeSettings}

/-- **The rules that the policy `managed` applies while properties are bound**; to break one is an
error. -/
theorem Binder.Raises.of_managed {b : Binder} {methods : List Method} {d : Diagnostic}
    (hpolicy : b.policy = .managed types) (h : b.Raises methods d) :
    d.isError = true ∧ (d.kind = .invalidGetter ∨ d.kind = .invalidSetter ∨
      d.kind = .overriddenMethods ∨ d.kind = .overloadedMethods) := by
  -- The policy decides on the state in silence, and each other hook raises one kind of error.
  cases h with
  | state _ raised =>
    rw [hpolicy] at raised
    exact absurd raised List.not_mem_nil
  | setter _ _ raised =>
    rw [hpolicy] at raised
    simp only [Policy.managed] at raised
    split at raised
    · exact absurd raised List.not_mem_nil
    · obtain ⟨j, hj, hmem⟩ := List.mem_flatMap.1 raised
      obtain ⟨reason, -, rfl⟩ := List.mem_map.1 hj
      exact (Journal.isError_of_mem_error hmem).imp_right fun hk => .inr (.inl hk)
  | getter _ raised =>
    rw [hpolicy] at raised
    exact (Journal.isError_of_mem_error raised).imp_right .inl
  | overridden _ raised =>
    rw [hpolicy] at raised
    obtain ⟨j, hj, hmem⟩ := List.mem_flatMap.1 raised
    obtain ⟨chain, -, rfl⟩ := List.mem_map.1 hj
    split at hmem
    · exact absurd hmem List.not_mem_nil
    · exact (Journal.isError_of_mem_error hmem).imp_right fun hk => .inr (.inr (.inl hk))
  | overloaded _ raised =>
    rw [hpolicy] at raised
    exact (Journal.isError_of_mem_error raised).imp_right fun hk => .inr (.inr (.inr hk))

/-- The rule of the policy `managed` for the type itself. -/
theorem Policy.of_mem_validateHierarchy {target : TypeDescriptor} {d : Diagnostic}
    (hd : d ∈ ((Policy.managed types).validateHierarchy target).diagnostics) :
    d.isError = true ∧ d.kind = .invalidHierarchy := by
  simp only [Policy.managed] at hd
  split at hd
  · exact Journal.isError_of_mem_error hd
  · exact absurd hd List.not_mem_nil

/-- The rule of the policy `managed` for methods left over. -/
theorem Policy.of_mem_incompleteCoverage {subject : TypeName} {all unhandled : List Method}
    {d : Diagnostic}
    (hd : d ∈ ((Policy.managed types).incompleteCoverage subject all unhandled).2.diagnostics) :
    d.isError = true ∧ d.kind = .incompleteCoverage := by
  simp only [Policy.managed] at hd
  split at hd
  · exact absurd hd List.not_mem_nil
  · exact Journal.isError_of_mem_error hd

/-- **The rules of the policy `managed` for the type and for its methods**, which are applied before
coverage is looked at. -/
theorem Extractor.kind_of_managed {x : Extractor} (hpolicy : x.policy = .managed types)
    {m : MethodSet} {d : Diagnostic}
    (hd : d ∈ (x.policy.validateHierarchy m.target).diagnostics ++
      (x.binder m).bind.journal.diagnostics) :
    d.kind = .invalidHierarchy ∨ d.kind = .invalidGetter ∨ d.kind = .invalidSetter ∨
      d.kind = .overriddenMethods ∨ d.kind = .overloadedMethods := by
  rcases List.mem_append.1 hd with hd | hd
  · rw [hpolicy] at hd
    exact .inl (Policy.of_mem_validateHierarchy hd).2
  · have hraises := Binder.raises_of_mem_bind (x.binder_groups m) hd
    exact .inr (hraises.of_managed hpolicy).2

/-- **Beside its `aspects` the extraction of a managed struct raises errors only.** -/
theorem Extractor.isError_or_mem_aspects_of_managed {x : Extractor}
    (hpolicy : x.policy = .managed types) {m : MethodSet} {d : Diagnostic}
    (hd : d ∈ (x.extract m).diagnostics) :
    d.isError = true ∨ d ∈ (x.aspects m.target.name (x.extract m).properties).2.diagnostics := by
  cases raises_of_mem_diagnostics hd with
  | hierarchy raised =>
    rw [hpolicy] at raised
    exact .inl (Policy.of_mem_validateHierarchy raised).1
  | binding raises => exact .inl (raises.of_managed hpolicy).1
  | coverage _ raised =>
    rw [hpolicy] at raised
    exact .inl (Policy.of_mem_incompleteCoverage raised).1
  | aspects raised => exact .inr raised

/-- **Beside its `aspects` the extraction of a managed struct raises nothing of the kind
`unsupportedPropertyType`.** -/
theorem Extractor.filter_unsupported_of_managed {x : Extractor}
    (hpolicy : x.policy = .managed types) (m : MethodSet) :
    (x.extract m).diagnostics.filter (·.kind = .unsupportedPropertyType) =
      (x.aspects m.target.name (x.extract m).properties).2.diagnostics.filter
        (·.kind = .unsupportedPropertyType) := by
  -- Each of the first three parts applies rules of its own.
  have hfirst : ((x.policy.validateHierarchy m.target).diagnostics ++
      (x.binder m).bind.journal.diagnostics).filter (·.kind = .unsupportedPropertyType) = [] := by
    refine List.filter_eq_nil_iff.2 fun d hd => ?_
    rcases kind_of_managed hpolicy hd with hk | hk | hk | hk | hk
    all_goals simp [hk]
  have hcoverage :
      (checkCoverage x.policy m.target.name m.methods (x.binder m).bind.handled).2.diagnostics.filter
        (·.kind = .unsupportedPropertyType) = [] := by
    refine List.filter_eq_nil_iff.2 fun d hd => ?_
    have hmem := mem_incompleteCoverage_of_mem_checkCoverage hd
    rw [hpolicy] at hmem
    simp [(Policy.of_mem_incompleteCoverage hmem).2]
  rw [diagnostics_extract, List.filter_append, List.filter_append, hfirst, hcoverage,
    List.append_nil, List.nil_append]

end Managed

end AccessorSchema
