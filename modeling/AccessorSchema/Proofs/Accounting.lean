import AccessorSchema.Proofs.Decision

/-!
# How methods come to be accounted for

A method can be accounted for in four ways: it belongs to an override chain, to an overloaded
group, to the getters of a bound property or to the setter of one.

* **`Binder.Produces`** — an outcome binds the getters of a residue and reports on their setter;
* **`Binder.Accounts`** — the four ways, each with what the outcome reports in that case;
* **`Binder.accounts_of_mem_handled`** — there is no fifth way;
* `Binder.Accounts.mem_methods` — only methods that were given are accounted for.
-/

namespace AccessorSchema

namespace Binder

/-- The outcome `o` binds the declarations of `getter` to the property of `residue` (`b.propertyOf`)
and reports on its setter. -/
structure Produces (b : Binder) (methods : List Method) (o : GroupOutcome) (residue : String)
    (getter : Accessor) : Prop where
  wellFormed : isWellFormedResidue residue = true
  property : o.property = some (b.propertyOf residue getter)
  made : Accessor.ofDeclarations? b.hierarchy getter.declarations = some getter
  named : ∀ d ∈ getter.declarations, d ∈ methods ∧ ∃ kind, d.name = getterName kind residue
  reported :
    (b.bindSetter getter.mostSpecific.returnType getter (b.setterOf residue)).2.diagnostics ⊆
      o.journal.diagnostics

/-- The ways in which the method `m` comes to be accounted for in the outcome `o`, with what is
reported of it. -/
inductive Accounts (b : Binder) (methods : List Method) (o : GroupOutcome) (m : Method) : Prop
  /-- `m` belongs to a `chain` of the `overrideChains` of its name. -/
  | overridden {name : String} {chain : List Method}
      (chain_mem : chain ∈ overrideChains (methodsNamed name methods)) (mem : m ∈ chain)
      (reported :
        (b.policy.overriddenMethods b.subject
            (overrideChains (methodsNamed name methods))).diagnostics ⊆ o.journal.diagnostics)
  /-- `m` is one of several methods `among` which there are `overloads`. -/
  | overloaded {among : List Method} (subset : among ⊆ methods) (several : overloads among ≠ [])
      (mem : m ∈ among)
      (reported :
        (b.policy.overloadedMethods b.subject (overloads among)).diagnostics ⊆
          o.journal.diagnostics)
  /-- `m` is one of the getters of a bound property. -/
  | getter {residue : String} {getter : Accessor}
      (produces : b.Produces methods o residue getter) (mem : m ∈ getter.declarations)
  /-- `m` is named like the setter of a bound property. -/
  | setter {residue : String} {getter : Accessor}
      (produces : b.Produces methods o residue getter)
      (mem : m ∈ methodsNamed (setterName residue) methods)

section

variable {b : Binder} {methods : List Method} {name : String} {m : Method}

/-- What `b.withoutOverloads among` has `handled` is accounted for as `overloaded`. -/
theorem accounts_of_overloads {among : List Method} {o : GroupOutcome} (hsub : among ⊆ methods)
    (hm : m ∈ (b.withoutOverloads among).handled)
    (hreported : (b.withoutOverloads among).journal.diagnostics ⊆ o.journal.diagnostics) :
    b.Accounts methods o m := by
  obtain ⟨ho, hmem⟩ := b.mem_handled_withoutOverloads.1 hm
  rw [journal_withoutOverloads_of_ne_nil b ho] at hreported
  exact .overloaded hsub ho hmem hreported

/-- A group that settles to `b.boundOutcome residue a` `Produces` the property of `residue`. -/
theorem Settles.produces {residue : String} {getters : List Method} {a : Accessor}
    (h : b.Settles methods name (b.boundOutcome residue a))
    (hbinds : BindsGetters b.hierarchy b.types methods residue getters)
    (ha : Accessor.ofDeclarations? b.hierarchy getters = some a) :
    b.Produces methods (b.settle (.ofMethods name methods)) residue a where
  wellFormed := hbinds.wellFormed
  property := h.property
  made := by rw [Accessor.declarations_eq ha, ha]
  named := by
    rw [Accessor.declarations_eq ha]
    exact fun d hd => hbinds.named hd
  reported := by
    intro d hd
    refine h.mem_diagnostics_iff.2 (.inr ?_)
    rw [boundOutcome, Journal.diagnostics_append]
    exact List.mem_append_right _ hd

/-- The methods of an ordinary `name` are accounted for as `overridden` or `overloaded`. -/
theorem accounts_of_mem_handled_ordinary (hacc : isAccessorName name = false)
    (hm : m ∈ (b.settle (.ofMethods name methods)).handled) :
    b.Accounts methods (b.settle (.ofMethods name methods)) m := by
  have hsub : methodsNamed name methods ⊆ methods := fun d hd => (mem_methodsNamed.1 hd).1
  rw [settle_ordinary hacc, settleOrdinary_eq] at hm ⊢
  simp only [GroupOutcome.after_handled, GroupOutcome.empty_handled, List.append_nil,
    List.mem_append] at hm
  rcases hm with hchain | hrest
  · obtain ⟨chain, hc, hmem⟩ := List.mem_flatten.1 hchain
    refine .overridden hc hmem ?_
    rw [GroupOutcome.after_journal, Journal.diagnostics_append, if_neg (List.ne_nil_of_mem hc)]
    exact List.subset_append_left _ _
  · refine accounts_of_overloads (fun d hd => hsub (List.mem_filter.1 hd).1) hrest ?_
    rw [GroupOutcome.after_journal, GroupOutcome.after_journal]
    simp only [Journal.diagnostics_append]
    exact fun d hd => List.mem_append_right _ (List.mem_append_left _ hd)

variable (hb : b.groups = .ofMethods methods)

include hb

/-- **Every method `handled` in a group's outcome is accounted for** in one of the four ways of
`Accounts`, unless the group is settled with another (`b.absorbedNames`). -/
theorem accounts_of_mem_handled (hname : name ∈ methods.map Method.name)
    (habs : name ∉ b.absorbedNames) (hm : m ∈ (b.settle (.ofMethods name methods)).handled) :
    b.Accounts methods (b.settle (.ofMethods name methods)) m := by
  by_cases hacc : isAccessorName name = true
  · obtain ⟨o, hdecides, hsettles⟩ := exists_settles hb hname habs hacc
    rcases hsettles.mem_handled_iff.1 hm with ⟨n, hn, hover⟩ | hdecided
    · refine accounts_of_overloads (fun d hd => (mem_methodsNamed.1 hd).1) hover fun d hd => ?_
      exact hsettles.mem_diagnostics_iff.2 (.inl ⟨n, hn, hd⟩)
    · cases hdecides with
      | bound _ binds made =>
        have hproduces := hsettles.produces binds made
        rcases (mem_handled_boundOutcome hb made).1 hdecided with hget | hset
        · exact .getter hproduces (by rwa [Accessor.declarations_eq made])
        · exact .setter hproduces hset
      | refused _ _ _ _ => exact absurd hdecided List.not_mem_nil
      | nothing _ => exact absurd hdecided List.not_mem_nil
  · exact accounts_of_mem_handled_ordinary (by simpa using hacc) hm

omit hb in
/-- `b.Accounts methods o m` only for `m ∈ methods`. -/
theorem Accounts.mem_methods {o : GroupOutcome} (h : b.Accounts methods o m) : m ∈ methods := by
  cases h with
  | overridden hc hm _ => exact (mem_methodsNamed.1 (mem_of_mem_overrideChains hc hm)).1
  | overloaded hsub _ hm _ => exact hsub hm
  | getter hprod hm => exact (hprod.named m hm).1
  | setter _ hm => exact (mem_methodsNamed.1 hm).1

/-- Every `m ∈ b.bind.handled` is accounted for in one of `b.outcomes`. -/
theorem accounts_of_mem_bind_handled (hm : m ∈ b.bind.handled) :
    ∃ o ∈ b.outcomes, b.Accounts methods o m := by
  obtain ⟨o, ho, hmo⟩ := List.mem_flatMap.1 (OrderedSet.mem_ofList.1 hm)
  obtain ⟨name, hname, habs, rfl⟩ := (mem_outcomes_iff hb).1 ho
  exact ⟨_, ho, accounts_of_mem_handled hb hname habs hmo⟩

end

end Binder

end AccessorSchema
