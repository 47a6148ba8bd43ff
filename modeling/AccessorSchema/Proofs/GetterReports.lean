import AccessorSchema.Policy.Recording
import AccessorSchema.Proofs.PropertyOrder
import AccessorSchema.Proofs.Reporting

/-!
# No getter is lost

A getter-shaped name is bound in one property, or something is said of a getter of its residue: that it
is refused, or that it is overloaded. This is so of all names that a group settles, the twin's
included, and only the hooks for these two reports have a part in it.

* **`Diagnostic.ConcernsGetter`** — an error about getters of a residue;
* **`Policy.ReportsGetters`** — a policy that says something whenever a getter is refused or
  overloaded, as that for managed structs and that which records do;
* **`Binder.Settles.bound_or_reported`** — what becomes of a name in the group that settles it;
* **`Extractor.getter_bound_or_reported`** — every getter is in exactly one property or reported.
-/

namespace AccessorSchema

/-! ## Reports on getters -/

/-- **`ConcernsGetter e residue`**: `e` is an error about getters of the `residue`, of either
kind. -/
structure Diagnostic.ConcernsGetter (e : Diagnostic) (residue : String) : Prop where
  isError : e.isError = true
  kind : e.kind = .invalidGetter ∨ e.kind = .overloadedMethods
  /-- One of the `methods` listed is a getter of the `residue`. -/
  lists : ∃ g ∈ e.methods, ∃ kind, g.name = getterName kind residue

/-- **`ReportsGetters policy`**: the `policy` gives an error whenever it is told that a getter is
refused or that methods are overloaded. -/
structure Policy.ReportsGetters (policy : Policy) : Prop where
  invalidGetter : ∀ subject getter message,
    ∃ e ∈ (policy.invalidGetter subject getter message).diagnostics,
      e.isError = true ∧ e.kind = .invalidGetter ∧ e.methods = [getter]
  overloadedMethods : ∀ subject methods,
    ∃ e ∈ (policy.overloadedMethods subject methods).diagnostics,
      e.isError = true ∧ e.kind = .overloadedMethods ∧ e.methods = methods

/-- A `Journal.error` holds that error. -/
theorem Journal.exists_mem_error (kind : DiagnosticKind) (subject : TypeName)
    (methods : List Method) (message : String) :
    ∃ e ∈ (Journal.error kind subject methods message).diagnostics,
      e.isError = true ∧ e.kind = kind ∧ e.methods = methods :=
  ⟨_, List.mem_cons_self, rfl, rfl, rfl⟩

namespace Policy

/-- The policy `managed` reports getters. -/
theorem reportsGetters_managed (types : TypeSettings) : (Policy.managed types).ReportsGetters where
  invalidGetter _ _ _ := Journal.exists_mem_error _ _ _ _
  overloadedMethods _ _ := Journal.exists_mem_error _ _ _ _

/-- The policy `recording` reports getters as well, beside the call. -/
theorem reportsGetters_recording (verdict : SetterVerdict) :
    (Policy.recording verdict).ReportsGetters where
  invalidGetter _ _ _ := Journal.exists_mem_error _ _ _ _
  overloadedMethods _ _ := Journal.exists_mem_error _ _ _ _

namespace ReportsGetters

variable {policy : Policy} (hpolicy : policy.ReportsGetters) (subject : TypeName) {residue : String}

include hpolicy

/-- Under a policy that `ReportsGetters`, `invalidGetter` gives an error about the residue of the
getter. -/
theorem concerns_invalidGetter {getter : Method} (message : String)
    (hname : ∃ kind, getter.name = getterName kind residue) :
    ∃ e ∈ (policy.invalidGetter subject getter message).diagnostics, e.ConcernsGetter residue := by
  obtain ⟨e, he, herror, hkind, hlist⟩ := hpolicy.invalidGetter subject getter message
  exact ⟨e, he, herror, .inl hkind, getter, hlist ▸ List.mem_singleton_self _, hname⟩

/-- Under such a policy, `overloadedMethods` of getters of a residue gives an error about it. -/
theorem concerns_overloadedMethods {methods : List Method} {m : Method} (hm : m ∈ methods)
    (hname : ∃ kind, m.name = getterName kind residue) :
    ∃ e ∈ (policy.overloadedMethods subject methods).diagnostics, e.ConcernsGetter residue := by
  obtain ⟨e, he, herror, hkind, hlist⟩ := hpolicy.overloadedMethods subject methods
  exact ⟨e, he, herror, .inr hkind, m, hlist ▸ hm, hname⟩

end ReportsGetters

end Policy

/-! ## Names settled in a group -/

namespace Binder

variable {b : Binder} {methods : List Method} {name residue : String} {kind : GetterKind}
  {o : GroupOutcome}

/-- Overloads of a getter name in `settledNames` are reported by `settle`. -/
theorem Settles.reported_of_overloads (h : b.Settles methods name o)
    (hpolicy : b.policy.ReportsGetters) (hn : getterName kind residue ∈ b.settledNames methods name)
    (hover : overloads (methodsNamed (getterName kind residue) methods) ≠ []) :
    ∃ e ∈ (b.settle (.ofMethods name methods)).journal.diagnostics, e.ConcernsGetter residue := by
  -- All overloads that are listed have the name.
  obtain ⟨m, hm⟩ := List.exists_mem_of_ne_nil _ hover
  have hname := (mem_methodsNamed.1 (overloads_subset _ hm)).2
  obtain ⟨e, he, hconcerns⟩ := hpolicy.concerns_overloadedMethods b.subject hm ⟨kind, hname⟩
  refine ⟨e, h.mem_diagnostics_iff.2 (.inl ⟨_, hn, ?_⟩), hconcerns⟩
  rw [resolved, journal_withoutOverloads_of_ne_nil b hover]
  exact he

variable (hb : b.groups = .ofMethods methods)

include hb

/-- A group with a getter name in its `settledNames` is that of a getter of the same residue. -/
theorem exists_kind_of_mem_settledNames
    (hn : getterName kind residue ∈ b.settledNames methods name) :
    ∃ kind', name = getterName kind' residue := by
  rcases eq_or_twin_of_mem_settledNames hb hn with heq | ⟨r, -, -, hname, htwin⟩
  · exact ⟨kind, heq.symm⟩
  · obtain rfl := (getterName_inj.1 htwin).2
    exact ⟨.get, hname⟩

/-- Of a getter name that is settled in the group of `bindingName`, `gettersOfKind` are left to
bind, unless there are `overloads`. -/
theorem gettersOfKind_ne_nil_of_mem_settledNames
    (hn : getterName kind residue ∈ b.settledNames methods (bindingName methods residue))
    (hmem : getterName kind residue ∈ methods.map Method.name)
    (hover : overloads (methodsNamed (getterName kind residue) methods) = []) :
    gettersOfKind methods residue kind ≠ [] := by
  cases kind with
  | get =>
    -- A `get` group is not settled with another, so that the residue is bound in this one.
    rcases eq_or_twin_of_mem_settledNames hb hn with heq | ⟨r, -, -, -, htwin⟩
    · intro hplain
      have hplain : plainGetters methods residue = [] := hplain
      rw [bindingName, if_pos hplain] at heq
      exact absurd (getterName_inj.1 heq).1 (by decide)
    · exact absurd (getterName_inj.1 htwin).1 (by decide)
  | is =>
    show unambiguous (methodsNamed (getterName .is residue) methods) ≠ []
    rw [unambiguous_of_overloads_eq_nil hover]
    exact fun hnil => methodsNamed_eq_nil_iff.1 hnil hmem

/-- Of a group that settles a getter name something is left by `unambiguous`, unless there are
`overloads`. -/
theorem unambiguous_ne_nil_of_mem_settledNames
    (hn : getterName kind residue ∈ b.settledNames methods name)
    (hmem : getterName kind residue ∈ methods.map Method.name)
    (hover : overloads (methodsNamed (getterName kind residue) methods) = []) :
    unambiguous (methodsNamed name methods) ≠ [] := by
  rcases eq_or_twin_of_mem_settledNames hb hn with rfl | ⟨r, -, hplain, rfl, -⟩
  · rw [unambiguous_of_overloads_eq_nil hover]
    exact fun hnil => methodsNamed_eq_nil_iff.1 hnil hmem
  · rw [unambiguous_get hplain]
    exact hplain

/-- **What becomes of a getter name in the group that settles it**: a property of `bind` has a
getter of the name, or `settle` gives an error about the residue. -/
theorem Settles.bound_or_reported (hsettles : b.Settles methods name o)
    (hdecides : b.Decides methods name o) (hpolicy : b.policy.ReportsGetters)
    (hr : residue ≠ "") (hn : getterName kind residue ∈ b.settledNames methods name)
    (hmem : getterName kind residue ∈ methods.map Method.name) :
    (∃ p ∈ b.bind.properties, getterName kind residue ∈ p.getterBindings.map Method.name) ∨
      ∃ e ∈ (b.settle (.ofMethods name methods)).journal.diagnostics,
        e.ConcernsGetter residue := by
  by_cases hover : overloads (methodsNamed (getterName kind residue) methods) = []
  · obtain ⟨kind', hkind'⟩ := exists_kind_of_mem_settledNames hb hn
    cases hdecides with
    | @bound r getters a name_eq binds made =>
      obtain rfl : residue = r := (getterName_inj.1 (hkind'.symm.trans name_eq)).2
      -- The name is that of the group or of the twin, and either way getters are bound of it.
      rw [name_eq] at hn
      have hne := gettersOfKind_ne_nil_of_mem_settledNames hb hn hmem hover
      refine .inl ⟨b.propertyOf residue a, ?_, (binds.getterName_mem_iff made).2 hne⟩
      exact (mem_bind_properties_iff hb).2 ⟨residue, getters, a, binds, made, rfl⟩
    | @refused k r m message name_eq mem named unbound =>
      obtain rfl : residue = r := (getterName_inj.1 (hkind'.symm.trans name_eq)).2
      obtain ⟨e, he, hconcerns⟩ := hpolicy.concerns_invalidGetter b.subject message named
      exact .inr ⟨e, hsettles.mem_diagnostics_iff.2 (.inr he), hconcerns⟩
    | nothing idle =>
      -- The group has the name of a getter, and something of it remains.
      rcases idle with hnot | hnil
      · rw [hkind', classify_getterName kind' hr] at hnot
        split at hnot
        · exact absurd hnot (by simp)
        · exact absurd hnot (by simp)
      · exact absurd hnil (unambiguous_ne_nil_of_mem_settledNames hb hn hmem hover)
  · exact .inr (hsettles.reported_of_overloads hpolicy hn hover)

/-- **Every getter name is bound in some property of `bind`, or there is an error about its
residue.** -/
theorem exists_bound_or_reported (hpolicy : b.policy.ReportsGetters) (hr : residue ≠ "")
    (hmem : getterName kind residue ∈ methods.map Method.name) :
    (∃ p ∈ b.bind.properties, getterName kind residue ∈ p.getterBindings.map Method.name) ∨
      ∃ e ∈ b.bind.journal.diagnostics, e.ConcernsGetter residue := by
  obtain ⟨name, hname, habs, hacc, hn⟩ :=
    exists_mem_settledNames hb hmem (isAccessorName_getterName kind hr)
  obtain ⟨o, hdecides, hsettles⟩ := exists_settles hb hname habs hacc
  refine (hsettles.bound_or_reported hb hdecides hpolicy hr hn hmem).imp_right ?_
  rintro ⟨e, he, hconcerns⟩
  refine ⟨e, List.mem_flatMap.2 ⟨_, List.mem_map_of_mem ?_, he⟩, hconcerns⟩
  exact (mem_outcomes_iff hb).2 ⟨name, hname, habs, rfl⟩

end Binder

/-! ## Extraction -/

namespace Extractor

/-- A `name` is that of getters of one property of `extract` at most. -/
theorem countP_getterName_eq_one {x : Extractor} {m : MethodSet} {name : String}
    {p : BoundProperty} (hp : p ∈ (x.extract m).properties)
    (hname : name ∈ p.getterBindings.map Method.name) :
    ((x.extract m).properties.countP fun p => name ∈ p.getterBindings.map Method.name) = 1 := by
  refine countP_eq_one_of_pairwise ((x.pairwise_apart m).imp ?_) hp (decide_eq_true hname)
  rintro q q' ⟨r, r', happart⟩ ⟨hq, hq'⟩
  exact happart.getterNames_disjoint (of_decide_eq_true hq) (of_decide_eq_true hq')

/-- **No getter is lost.** Under `Policy.managed` and under `Policy.recording`, every `getterName`
of a method is the name of a getter of exactly one property, or there is an error, `ConcernsGetter`,
that lists a getter of the same residue as refused or as overloaded. -/
theorem getter_bound_or_reported (x : Extractor) (m : MethodSet)
    (hpolicy : (∃ types, x.policy = .managed types) ∨ ∃ verdict, x.policy = .recording verdict)
    (kind : GetterKind) (residue : String) (hr : residue ≠ "")
    (hmem : ∃ d ∈ m.methods, d.name = getterName kind residue) :
    ((x.extract m).properties.countP fun p =>
        getterName kind residue ∈ p.getterBindings.map Method.name) = 1 ∨
      ∃ e ∈ (x.extract m).diagnostics, e.ConcernsGetter residue := by
  have hreports : x.policy.ReportsGetters := by
    rcases hpolicy with ⟨types, heq⟩ | ⟨verdict, heq⟩
    · rw [heq]
      exact Policy.reportsGetters_managed types
    · rw [heq]
      exact Policy.reportsGetters_recording verdict
  rcases Binder.exists_bound_or_reported (x.binder_groups m) hreports hr (List.mem_map.2 hmem) with
    ⟨p, hp, hname⟩ | ⟨e, he, hconcerns⟩
  · exact .inl (countP_getterName_eq_one hp hname)
  · refine .inr ⟨e, ?_, hconcerns⟩
    rw [diagnostics_extract]
    exact List.mem_append_left _ (List.mem_append_left _ (List.mem_append_right _ he))

/-- A `get` getter of strings with a boolean twin. -/
def mismatchedTwins : MethodSet where
  target := { name := "T" }
  methods :=
    [{ name := "getX", declaringType := "T", returnType := "String" },
      { name := "isX", declaringType := "T", returnType := "boolean" }]

/-- Neither getter of `mismatchedTwins` is bound: a `get` getter with a twin has to be boolean. -/
theorem mismatchedTwins_not_bound {p : BoundProperty} (kind : GetterKind)
    (hp : p ∈ ((managed {} {} {}).extract mismatchedTwins).properties) :
    getterName kind "X" ∉ p.getterBindings.map Method.name := by
  intro hname
  obtain ⟨r, getters, a, hbinds, ha, rfl⟩ := (mem_extract_properties_iff _ _).1 hp
  obtain ⟨g, hg, hgname⟩ := List.mem_map.1 hname
  obtain ⟨kind', hkind'⟩ := (hbinds.named (Accessor.getters_subset ha hg)).2
  obtain rfl : "X" = r := (getterName_inj.1 (hgname.symm.trans hkind')).2
  have hplain : plainGetters mismatchedTwins.methods "X" =
      [{ name := "getX", declaringType := "T", returnType := "String" }] := by cbv
  have htwin : twinGetters mismatchedTwins.methods "X" =
      [{ name := "isX", declaringType := "T", returnType := "boolean" }] := by cbv
  -- Merging the twins is all that is left, and the `get` getter is in the way of that.
  cases hbinds with
  | plain _ _ alone =>
    rw [htwin] at alone
    exact absurd alone (by simp)
  | merged merges =>
    obtain ⟨g, hmost, hbool⟩ := merges.plain
    rw [hplain] at hmost
    rw [← Option.some.inj hmost] at hbool
    exact absurd hbool (by decide)
  | twin _ alone _ _ _ =>
    rw [hplain] at alone
    exact absurd alone (by simp)

/-- There is an error about the getters of `mismatchedTwins` instead, as `getter_bound_or_reported`
has it. -/
theorem mismatchedTwins_reported :
    ∃ e ∈ ((managed {} {} {}).extract mismatchedTwins).diagnostics, e.ConcernsGetter "X" := by
  refine (getter_bound_or_reported (managed {} {} {}) mismatchedTwins (.inl ⟨{}, rfl⟩) .get "X"
    (by decide) ⟨_, List.mem_cons_self, by decide⟩).resolve_left fun hone => ?_
  obtain ⟨p, hp, hname⟩ := List.countP_pos_iff.1 (hone ▸ Nat.one_pos)
  exact mismatchedTwins_not_bound .get hp (of_decide_eq_true hname)

end Extractor

end AccessorSchema
