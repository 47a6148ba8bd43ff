import AccessorSchema.Proofs.HandledMethods
import AccessorSchema.Proofs.PropertyOrder
import AccessorSchema.Proofs.Reporting

/-!
# Managed structs without objections

What a managed struct has to look like, in terms of its declarations, for nothing to be said of it.
Whatever the hierarchy, it does not matter then which of several declarations is the most specific:
all declarations of a name agree in what the rules ask for.

* **`MethodSet.WellDeclared`** — the rules for declarations;
* `MethodSet.WellDeclared.overloads_eq_nil` — no name is overloaded;
* `MethodSet.WellDeclared.exists_bindsGetters` — every residue of a getter is bound;
* `MethodSet.WellDeclared.silent_settle` — no group objects to anything;
* **`Extractor.extract_of_wellDeclared`** — nothing is reported, nothing is left unhandled, and each
  residue of a getter has one property, with a setter if there is one.
-/

namespace AccessorSchema

/-! ## Rules for declarations -/

/-- `HasGetter m residue`: the `residue` is that of a getter of `m`, of either kind. -/
def MethodSet.HasGetter (m : MethodSet) (residue : String) : Prop :=
  residue ≠ "" ∧ ∃ kind, ∃ d ∈ m.methods, d.name = getterName kind residue

/-- **`WellDeclared m types`: the rules for declarations of a managed struct.** -/
structure MethodSet.WellDeclared (m : MethodSet) (types : TypeSettings) : Prop where
  /-- The type is no `concreteClass`, but an interface or an abstract class. -/
  target : m.target.kind ≠ .concreteClass
  /-- Ordinary methods have an implementation, and those of one name the same `parameterTypes`. -/
  ordinary : ∀ d ∈ m.methods, isAccessorName d.name = false → d.isConcrete = true ∧
    ∀ e ∈ m.methods, e.name = d.name → e.parameterTypes = d.parameterTypes
  /-- Getters have a well-formed `residue` and take no parameters. -/
  getter : ∀ kind residue, residue ≠ "" → ∀ d ∈ m.methods, d.name = getterName kind residue →
    isWellFormedResidue residue = true ∧ d.parameterTypes = []
  /-- Getters with `is` are boolean, and so are those with `get` that have such a twin. -/
  twin : ∀ residue, residue ≠ "" → ∀ d ∈ m.methods, d.name = getterName .is residue →
    types.isBoolean d.returnType = true ∧
      ∀ e ∈ m.methods, e.name = getterName .get residue → types.isBoolean e.returnType = true
  /-- Setters have getters of their `residue`. They take what all of these return and nothing else,
  return the type that setters return, and have an implementation only if all of these have one. -/
  setter : ∀ residue, residue ≠ "" → ∀ s ∈ m.methods, s.name = setterName residue →
    (∃ kind, ∃ g ∈ m.methods, g.name = getterName kind residue) ∧
      types.isVoid s.returnType = true ∧
        ∃ t, s.parameterTypes = [t] ∧
          ∀ kind, ∀ g ∈ m.methods, g.name = getterName kind residue →
            g.returnType = t ∧ (s.isConcrete = true → g.isConcrete = true)

namespace MethodSet.WellDeclared

variable {m : MethodSet} {types : TypeSettings} (hm : m.WellDeclared types)

include hm

/-! ## Overloads -/

/-- Where `WellDeclared` holds, methods of one name have the same `parameterTypes`. -/
theorem parameterTypes_eq {d e : Method} (hd : d ∈ m.methods) (he : e ∈ m.methods)
    (hname : d.name = e.name) : d.parameterTypes = e.parameterTypes := by
  by_cases hacc : isAccessorName e.name = true
  · rcases isAccessorName_iff.1 hacc with ⟨kind, residue, hr, heq⟩ | ⟨residue, hr, heq⟩
    · rw [(hm.getter kind residue hr d hd (hname.trans heq)).2, (hm.getter kind residue hr e he heq).2]
    · -- Two setters of one residue take what one and the same getter returns.
      obtain ⟨⟨kind, g, hg, hgname⟩, -, t, ht, hall⟩ := hm.setter residue hr e he heq
      obtain ⟨-, -, t', ht', hall'⟩ := hm.setter residue hr d hd (hname.trans heq)
      rw [ht, ht', ← (hall kind g hg hgname).1, ← (hall' kind g hg hgname).1]
  · exact (hm.ordinary e he (by simpa using hacc)).2 d hd hname

/-- **Where `WellDeclared` holds, no name has `overloads`.** -/
theorem overloads_eq_nil (name : String) : overloads (methodsNamed name m.methods) = [] := by
  refine overloads_methodsNamed_eq_nil_iff.2 fun d hd e he => ?_
  obtain ⟨hdmem, hdname⟩ := mem_methodsNamed.1 hd
  obtain ⟨hemem, hename⟩ := mem_methodsNamed.1 he
  exact hm.parameterTypes_eq hdmem hemem (hdname.trans hename.symm)

/-- Every method of a getter name is among `gettersOfKind`, and so goes on to be bound. -/
theorem mem_gettersOfKind {kind : GetterKind} {residue : String} (hr : residue ≠ "") {d : Method}
    (hd : d ∈ m.methods) (hname : d.name = getterName kind residue) :
    d ∈ gettersOfKind m.methods residue kind := by
  cases kind with
  | get => exact mem_plainGetters.2 ⟨hd, hname, (hm.getter .get residue hr d hd hname).2⟩
  | is =>
    show d ∈ unambiguous (methodsNamed (getterName .is residue) m.methods)
    rw [unambiguous_of_overloads_eq_nil (hm.overloads_eq_nil _)]
    exact mem_methodsNamed.2 ⟨hd, hname⟩

/-! ## Getters -/

/-- **Every residue of a getter is bound**: `BindsGetters` holds for it. -/
theorem exists_bindsGetters (h : TypeHierarchy) {residue : String} (hget : m.HasGetter residue) :
    ∃ getters, BindsGetters h types m.methods residue getters := by
  obtain ⟨hr, kind, d, hd, hname⟩ := hget
  have hw : isWellFormedResidue residue = true := (hm.getter kind residue hr d hd hname).1
  by_cases htwin : twinGetters m.methods residue = []
  · -- The getter that there is must be a `get` getter.
    cases kind with
    | get =>
      have hplain := List.ne_nil_of_mem (hm.mem_gettersOfKind hr hd hname)
      exact ⟨_, .plain hw hplain htwin⟩
    | is => exact absurd htwin (List.ne_nil_of_mem (hm.mem_gettersOfKind hr hd hname))
  · -- With an `is` getter all getters of the residue are boolean, whichever is the most specific.
    obtain ⟨t, ht⟩ := h.exists_mostSpecific? htwin
    obtain ⟨htmem, htname⟩ := mem_of_mem_twinGetters (TypeHierarchy.mem_of_mostSpecific? ht)
    obtain ⟨hbool, hplainbool⟩ := hm.twin residue hr t htmem htname
    by_cases hplain : plainGetters m.methods residue = []
    · exact ⟨_, .twin hw hplain ht (hm.getter .is residue hr t htmem htname).2 hbool⟩
    · obtain ⟨g, hg⟩ := h.exists_mostSpecific? hplain
      obtain ⟨hgmem, hgname, -⟩ := mem_plainGetters.1 (TypeHierarchy.mem_of_mostSpecific? hg)
      obtain ⟨top, htop⟩ := h.exists_mostSpecific? (List.append_ne_nil_of_left_ne_nil hplain
        (twinGetters m.methods residue))
      obtain ⟨htopmem, k, htopname⟩ :=
        named_of_mem_getters (TypeHierarchy.mem_of_mostSpecific? htop)
      -- Whichever getter is the most specific of all, it takes no parameters.
      have hmerges : MergesTwins h types m.methods residue top :=
        { wellFormed := hw
          plain := ⟨g, hg, hplainbool g hgmem hgname⟩
          twin := ⟨t, ht, hbool⟩
          chosen := htop
          parameterless := (hm.getter k residue hr top htopmem htopname).2 }
      exact ⟨_, .merged hmerges⟩

/-- A residue for which `BindsGetters` holds is bound by all its getters. -/
theorem mem_of_bindsGetters {h : TypeHierarchy} {kind : GetterKind} {residue : String}
    {getters : List Method} (hbinds : BindsGetters h types m.methods residue getters) {d : Method}
    (hd : d ∈ m.methods) (hname : d.name = getterName kind residue) : d ∈ getters := by
  have hmem := hm.mem_gettersOfKind (ne_empty_of_isWellFormedResidue hbinds.wellFormed) hd hname
  rw [hbinds.eq_append]
  cases kind with
  | get => exact List.mem_append_left _ hmem
  | is => exact List.mem_append_right _ hmem

/-! ## Setters -/

/-- **There are no `setterProblems` of a bound residue**, whichever of its getters and whichever of
its setters is the most specific. -/
theorem setterProblems_eq_nil {h : TypeHierarchy} {residue : String} {getters : List Method}
    {getter setter : Accessor} (hbinds : BindsGetters h types m.methods residue getters)
    (hgetter : Accessor.ofDeclarations? h getters = some getter)
    (hsetter : Accessor.ofDeclarations? h (methodsNamed (setterName residue) m.methods) =
      some setter) :
    setterProblems types getter.mostSpecific.returnType getter.mostSpecific setter.mostSpecific =
      [] := by
  have htop := TypeHierarchy.mem_of_mostSpecific? (Accessor.mostSpecific?_eq hgetter)
  obtain ⟨hmem, kind, hname⟩ := hbinds.named htop
  obtain ⟨hsmem, hsname⟩ := mem_methodsNamed.1
    (TypeHierarchy.mem_of_mostSpecific? (Accessor.mostSpecific?_eq hsetter))
  have hr := ne_empty_of_isWellFormedResidue hbinds.wellFormed
  obtain ⟨-, hvoid, t, ht, hall⟩ := hm.setter residue hr _ hsmem hsname
  obtain ⟨hreturn, hconcrete⟩ := hall kind _ hmem hname
  exact setterProblems_eq_nil_iff.2 ⟨by rw [ht, hreturn], hvoid, hconcrete⟩

section Groups

variable {b : Binder} (hb : b.groups = .ofMethods m.methods) (hpolicy : b.policy = .managed types)
  (htypes : b.types = types)

include hb hpolicy

/-- **The setter of a bound residue is kept by `bindSetter` without a word**, if there is one. -/
theorem bindSetter_silent {residue : String} {getters : List Method} {getter : Accessor}
    (hbinds : BindsGetters b.hierarchy types m.methods residue getters)
    (hgetter : Accessor.ofDeclarations? b.hierarchy getters = some getter) :
    (b.bindSetter getter.mostSpecific.returnType getter (b.setterOf residue)).2.Silent ∧
      ((b.bindSetter getter.mostSpecific.returnType getter (b.setterOf residue)).1.isSome = true ↔
        ∃ s ∈ m.methods, s.name = setterName residue) := by
  rw [Binder.setterOf_eq hb]
  cases hsetter : Accessor.ofDeclarations? b.hierarchy
      (methodsNamed (setterName residue) m.methods) with
  | none =>
    refine ⟨Journal.silent_empty, iff_of_false (by simp [Binder.bindSetter]) ?_⟩
    rintro ⟨s, hs, hname⟩
    obtain ⟨setter, hsome⟩ := Accessor.exists_ofDeclarations? b.hierarchy
      (List.ne_nil_of_mem (mem_methodsNamed.2 ⟨hs, hname⟩))
    rw [hsetter] at hsome
    exact absurd hsome (by simp)
  | some setter =>
    -- The most specific setter suits the most specific getter, and so it is accepted.
    have hproblems := hm.setterProblems_eq_nil hbinds hgetter hsetter
    simp only [Binder.bindSetter, hpolicy, validateSetter_of_setterProblems_eq_nil hproblems]
    have htop := TypeHierarchy.mem_of_mostSpecific? (Accessor.mostSpecific?_eq hsetter)
    exact ⟨Journal.silent_empty, iff_of_true rfl ⟨_, mem_methodsNamed.1 htop⟩⟩

/-! ## Groups -/

omit hb in
/-- Of ordinary methods `settle` says nothing that is an error. -/
theorem silent_settle_ordinary {name : String} (hacc : isAccessorName name = false) :
    (b.settle (.ofMethods name m.methods)).journal.Silent := by
  have hchains : ∀ chain ∈ overrideChains (methodsNamed name m.methods), ∀ d ∈ chain,
      d.isConcrete = true := by
    intro chain hchain d hd
    obtain ⟨hmem, rfl⟩ := mem_methodsNamed.1 (mem_of_mem_overrideChains hchain hd)
    exact (hm.ordinary d hmem hacc).1
  -- Outside the chains there are no overloads either.
  have hrest : overloads ((methodsNamed name m.methods).filter
      (· ∉ (overrideChains (methodsNamed name m.methods)).flatten)) = [] :=
    overloads_eq_nil_iff.2 fun d hd e he => overloads_eq_nil_iff.1 (hm.overloads_eq_nil name) d
      (List.mem_filter.1 hd).1 e (List.mem_filter.1 he).1
  rw [Binder.settle_ordinary hacc, Binder.settleOrdinary_eq]
  simp only [GroupOutcome.after_journal, Journal.silent_append,
    Binder.journal_withoutOverloads_of_eq_nil b hrest]
  refine ⟨?_, Journal.silent_empty, Journal.silent_empty⟩
  split
  · exact Journal.silent_empty
  · rw [hpolicy]
    exact silent_overriddenMethods_iff.2 hchains

include htypes

/-- An outcome that `Decides` a group is `Silent`: no getter is refused. -/
theorem silent_of_decides {name : String} {o : GroupOutcome} (hdecides : b.Decides m.methods name o)
    (hname : name ∈ m.methods.map Method.name) (habs : name ∉ b.absorbedNames)
    (hacc : isAccessorName name = true) : o.journal.Silent := by
  cases hdecides with
  | bound _ binds made =>
    rw [htypes] at binds
    rw [Binder.boundOutcome, Journal.silent_append, hpolicy]
    exact ⟨Journal.silent_empty, (hm.bindSetter_silent hb hpolicy binds made).1⟩
  | @refused kind residue _ _ name_eq _ _ unbound =>
    -- A group refuses a getter only if its residue is not bound, but every residue is.
    subst name_eq
    have hr := ne_empty_of_isAccessorName_getterName hacc
    obtain ⟨d, hd, hdname⟩ := List.mem_map.1 hname
    have hw := (hm.getter kind residue hr d hd hdname).1
    have hbinding : getterName kind residue = bindingName m.methods residue := by
      refine Binder.eq_bindingName_of_not_mem_absorbedNames hb hw hname habs ?_
      rintro rfl
      exact List.ne_nil_of_mem (hm.mem_gettersOfKind hr hd hdname)
    obtain ⟨getters, hbinds⟩ := hm.exists_bindsGetters b.hierarchy ⟨hr, kind, d, hd, hdname⟩
    rw [← htypes] at hbinds
    exact absurd hbinds (unbound hbinding getters)
  | nothing _ => exact Journal.silent_empty

/-- **No group objects to anything**: the journal of `settle` is `Silent`. -/
theorem silent_settle {name : String} (hname : name ∈ m.methods.map Method.name)
    (habs : name ∉ b.absorbedNames) : (b.settle (.ofMethods name m.methods)).journal.Silent := by
  by_cases hacc : isAccessorName name = true
  · obtain ⟨o, hdecides, hsettles⟩ := Binder.exists_settles hb hname habs hacc
    rw [hsettles.journal, Journal.silent_append, Journal.silent_concat]
    refine ⟨?_, hm.silent_of_decides hb hpolicy htypes hdecides hname habs hacc⟩
    rw [List.forall_mem_map]
    intro n _
    rw [Binder.resolved, Binder.journal_withoutOverloads_of_eq_nil b (hm.overloads_eq_nil n)]
    exact Journal.silent_empty
  · exact hm.silent_settle_ordinary hpolicy (by simpa using hacc)

omit hpolicy in
/-- **Accessors are all among the `handled` of `bind`.** -/
theorem mem_bind_handled {d : Method} (hd : d ∈ m.methods) (hacc : isAccessorName d.name = true) :
    d ∈ b.bind.handled := by
  have hbound : ∀ residue, m.HasGetter residue →
      ((∃ kind, d.name = getterName kind residue) ∨ d.name = setterName residue) →
        d ∈ b.bind.handled := by
    intro residue hget hname
    obtain ⟨getters, hbinds⟩ := hm.exists_bindsGetters b.hierarchy hget
    obtain ⟨a, ha⟩ := Accessor.exists_ofDeclarations? b.hierarchy hbinds.ne_nil
    refine Binder.mem_bind_handled_of_bindsGetters hb (htypes ▸ hbinds) ha ?_
    rcases hname with ⟨kind, hname⟩ | hname
    · exact .inl (hm.mem_of_bindsGetters hbinds hd hname)
    · exact .inr (mem_methodsNamed.2 ⟨hd, hname⟩)
  -- A setter goes with the getters that it is required to have.
  rcases isAccessorName_iff.1 hacc with ⟨kind, residue, hr, hname⟩ | ⟨residue, hr, hname⟩
  · exact hbound residue ⟨hr, kind, d, hd, hname⟩ (.inl ⟨kind, hname⟩)
  · exact hbound residue ⟨hr, (hm.setter residue hr d hd hname).1⟩ (.inr hname)

omit hpolicy in
/-- Each of the `leftovers` has an implementation. -/
theorem isConcrete_of_mem_leftovers {d : Method} (hd : d ∈ leftovers m.methods b.bind.handled) :
    d.isConcrete = true := by
  obtain ⟨hmem, hnot⟩ := mem_leftovers.1 hd
  have hord : isAccessorName d.name = false := by
    rw [← Bool.not_eq_true]
    exact fun hacc => hnot (hm.mem_bind_handled hb htypes hmem hacc)
  exact (hm.ordinary d hmem hord).1

end Groups

end MethodSet.WellDeclared

/-! ## Extraction -/

namespace BoundProperty

/-- Whether `HasResidue` holds can be read off the `getterBindings`. -/
instance (p : BoundProperty) (residue : String) : Decidable (p.HasResidue residue) :=
  decidable_of_iff (p.getterBindings ≠ [] ∧ ∀ g ∈ p.getterBindings,
      g.name = getterName .get residue ∨ g.name = getterName .is residue) <| by
    refine and_congr_right fun _ => forall_congr' fun g => forall_congr' fun _ => ?_
    constructor
    · rintro (hname | hname)
      · exact ⟨.get, hname⟩
      · exact ⟨.is, hname⟩
    · rintro ⟨kind, hname⟩
      cases kind with
      | get => exact .inl hname
      | is => exact .inr hname

end BoundProperty

namespace Extractor

section

variable {m : MethodSet} {types : TypeSettings} (hm : m.WellDeclared types) (h : TypeHierarchy)

include hm

/-- **Nothing is reported of a type that is `WellDeclared`.** -/
theorem diagnostics_eq_nil_of_wellDeclared :
    ((managed types types h).extract m).diagnostics = [] := by
  have hb := (managed types types h).binder_groups m
  have hsilent : ((managed types types h).extract m).journal.Silent := by
    refine Extraction.hasErrors_eq_false_iff.1 (hasErrors_managed_eq_false_iff.2 ⟨hm.target, ?_, ?_⟩)
    · intro o ho
      obtain ⟨name, hname, habs, rfl⟩ := (Binder.mem_outcomes_iff hb).1 ho
      exact hm.silent_settle hb rfl rfl hname habs
    · exact fun d hd => hm.isConcrete_of_mem_leftovers hb rfl hd
  -- There is nothing but errors to be reported.
  refine List.eq_nil_iff_forall_not_mem.2 fun d hd => ?_
  rcases isError_or_mem_aspects_of_managed rfl hd with herror | hnone
  · rw [hsilent d hd] at herror
    exact absurd herror (by decide)
  · exact absurd hnone List.not_mem_nil

/-- Each residue for which `HasGetter` holds has one property. -/
theorem countP_hasResidue_of_wellDeclared {residue : String} (hget : m.HasGetter residue) :
    ((managed types types h).extract m).properties.countP (fun p => p.HasResidue residue) = 1 := by
  obtain ⟨getters, hbinds⟩ := hm.exists_bindsGetters h hget
  have hprop : ∃ p ∈ ((managed types types h).extract m).properties,
      p.name = decapitalize residue ∧ p.HasResidue residue :=
    exists_property_of_bindsGetters hbinds
  obtain ⟨p, hp, -, hresidue⟩ := hprop
  refine countP_eq_one_of_pairwise ((pairwise_apart _ m).imp ?_) hp (decide_eq_true hresidue)
  rintro q q' ⟨r, r', happart⟩ ⟨hq, hq'⟩
  have hqr := (happart.residue residue).1 (of_decide_eq_true hq)
  have hqr' := (happart.residue' residue).1 (of_decide_eq_true hq')
  exact happart.residues_ne (hqr.symm.trans hqr')

/-- Each property is that of a residue for which `HasGetter` holds, and writable if there is a
setter of it. -/
theorem isWritable_iff_of_wellDeclared {p : BoundProperty}
    (hp : p ∈ ((managed types types h).extract m).properties) :
    ∃ residue, m.HasGetter residue ∧ (∀ r, p.HasResidue r ↔ r = residue) ∧
      (p.isWritable = true ↔ ∃ s ∈ m.methods, s.name = setterName residue) := by
  obtain ⟨residue, getters, a, hbinds, ha, rfl⟩ := (mem_extract_properties_iff _ m).1 hp
  have hresidue := hbinds.hasResidue ha ((managed types types h).binder m)
  obtain ⟨d, hd⟩ := List.exists_mem_of_ne_nil _ hbinds.ne_nil
  obtain ⟨hmem, kind, hname⟩ := hbinds.named hd
  have hb := (managed types types h).binder_groups m
  exact ⟨residue, ⟨ne_empty_of_isWellFormedResidue hbinds.wellFormed, kind, d, hmem, hname⟩,
    fun r => ⟨fun hr => hr.unique hresidue, fun hr => hr ▸ hresidue⟩,
    (hm.bindSetter_silent hb rfl hbinds ha).2⟩

/-- **No objection is made to a `WellDeclared` type**, whatever the hierarchy: nothing is reported,
no method is left unhandled, each residue for which `HasGetter` holds has exactly one property, each
property is that of such a residue, and it is writable exactly if there is a setter of the
residue. -/
theorem extract_of_wellDeclared :
    ((managed types types h).extract m).diagnostics = [] ∧
      ((managed types types h).extract m).unhandled = [] ∧
      (∀ residue, m.HasGetter residue →
        ((managed types types h).extract m).properties.countP (fun p => p.HasResidue residue) = 1) ∧
      ∀ p ∈ ((managed types types h).extract m).properties, ∃ residue, m.HasGetter residue ∧
        (∀ r, p.HasResidue r ↔ r = residue) ∧
          (p.isWritable = true ↔ ∃ s ∈ m.methods, s.name = setterName residue) :=
  have hb := (managed types types h).binder_groups m
  ⟨diagnostics_eq_nil_of_wellDeclared hm h,
    unhandled_managed_eq_nil fun _ hd => hm.isConcrete_of_mem_leftovers hb rfl hd,
    fun _ hget => countP_hasResidue_of_wellDeclared hm h hget,
    fun _ hp => isWritable_iff_of_wellDeclared hm h hp⟩

end

/-- Boolean twins on `T` and `P` with a setter, and an ordinary method that is overridden. -/
def twinsWithSetter : MethodSet where
  target := { name := "T", supertypes := ["P"] }
  methods :=
    [{ name := "getX", declaringType := "T", returnType := "boolean" },
      { name := "isX", declaringType := "P", returnType := "boolean" },
      { name := "setX", declaringType := "T", returnType := "void", parameterTypes := ["boolean"] },
      { name := "run", declaringType := "T", returnType := "void", markers := .ofList [.concrete] },
      { name := "run", declaringType := "P", returnType := "void", markers := .ofList [.concrete] }]

/-- The twins are the only getters of `twinsWithSetter`. -/
theorem of_getter_mem_twinsWithSetter {d : Method} {kind : GetterKind} {residue : String}
    (hd : d ∈ twinsWithSetter.methods) (hr : residue ≠ "")
    (hname : d.name = getterName kind residue) :
    residue = "X" ∧ d.parameterTypes = [] ∧ d.returnType = "boolean" := by
  have hrun : getterKind? "run" = none := by cbv
  simp only [twinsWithSetter, List.mem_cons, List.not_mem_nil, or_false] at hd
  rcases hd with rfl | rfl | rfl | rfl | rfl
  · have hget : getterName .get "X" = getterName kind residue := hname
    exact ⟨(getterName_inj.1 hget).2.symm, rfl, rfl⟩
  · have his : getterName .is "X" = getterName kind residue := hname
    exact ⟨(getterName_inj.1 his).2.symm, rfl, rfl⟩
  · have hset : setterName "X" = getterName kind residue := hname
    exact absurd hset.symm (getterName_ne_setterName kind residue "X")
  all_goals
    have hkind := getterKind?_eq_some_iff.2 ⟨residue, hname, hr⟩
    rw [hrun] at hkind
    exact absurd hkind (by simp)

/-- The setter of `X` is the only one of `twinsWithSetter`. -/
theorem of_setter_mem_twinsWithSetter {d : Method} {residue : String}
    (hd : d ∈ twinsWithSetter.methods) (hr : residue ≠ "") (hname : d.name = setterName residue) :
    residue = "X" ∧ d.parameterTypes = ["boolean"] ∧ d.returnType = "void" ∧
      d.isConcrete = false := by
  have hrun : residueAfter? "set" "run" = none := by cbv
  simp only [twinsWithSetter, List.mem_cons, List.not_mem_nil, or_false] at hd
  rcases hd with rfl | rfl | rfl | rfl | rfl
  · have hget : getterName .get "X" = setterName residue := hname
    exact absurd hget (getterName_ne_setterName .get "X" residue)
  · have his : getterName .is "X" = setterName residue := hname
    exact absurd his (getterName_ne_setterName .is "X" residue)
  · have hset : setterName "X" = setterName residue := hname
    exact ⟨(setterName_inj.1 hset).symm, rfl, rfl, by decide⟩
  all_goals
    have hresidue := residueAfter?_eq_some_iff.2 ⟨hname, hr⟩
    rw [hrun] at hresidue
    exact absurd hresidue (by simp)

/-- The declarations of `twinsWithSetter` keep the rules. -/
theorem wellDeclared_twinsWithSetter : twinsWithSetter.WellDeclared {} where
  target := by decide
  ordinary := by decide
  getter kind residue hr d hd hname := by
    obtain ⟨rfl, hparameters, -⟩ := of_getter_mem_twinsWithSetter hd hr hname
    exact ⟨by cbv, hparameters⟩
  twin residue hr d hd hname := by
    refine ⟨?_, fun e he hename => ?_⟩
    · rw [(of_getter_mem_twinsWithSetter hd hr hname).2.2]
      decide
    · rw [(of_getter_mem_twinsWithSetter he hr hename).2.2]
      decide
  setter residue hr s hs hname := by
    obtain ⟨rfl, hparameters, hvoid, hconcrete⟩ := of_setter_mem_twinsWithSetter hs hr hname
    refine ⟨⟨.get, _, List.mem_cons_self, by decide⟩, by rw [hvoid]; decide, "boolean", hparameters,
      fun kind g hg hgname => ⟨(of_getter_mem_twinsWithSetter hg hr hgname).2.2, fun h => ?_⟩⟩
    rw [hconcrete] at h
    exact absurd h (by decide)

/-- Nothing is said of `twinsWithSetter`, although the supertypes are cyclic. -/
theorem twinsWithSetter_accepted :
    ((managed {} {} (.ofDeclarations [("T", ["P"]), ("P", ["T"])])).extract
        twinsWithSetter).diagnostics = [] ∧
      ((managed {} {} (.ofDeclarations [("T", ["P"]), ("P", ["T"])])).extract
        twinsWithSetter).properties.countP (fun p => p.HasResidue "X") = 1 := by
  obtain ⟨hnone, -, hproperty, -⟩ := extract_of_wellDeclared wellDeclared_twinsWithSetter
    (.ofDeclarations [("T", ["P"]), ("P", ["T"])])
  exact ⟨hnone, hproperty "X" ⟨by decide, .get, _, List.mem_cons_self, by decide⟩⟩

end Extractor

end AccessorSchema
