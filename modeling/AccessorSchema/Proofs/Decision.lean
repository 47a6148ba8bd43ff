import AccessorSchema.Proofs.BoundProperty

/-!
# What a group comes to

The groups of accessors are settled alike: the overloads of every name that is settled in the group
are reported first, and then one thing is decided. Whatever is to be said of an extraction is said
of these few cases.

* **`Binder.settledNames`** — the names that are settled in a group: its own, and that of the twin;
* **`Binder.Decides`** — what can be decided: getters are bound, one of them is refused, or there is
  nothing to decide;
* **`Binder.Settles`** — an outcome that consists of the reports on overloads and the decision;
* **`Binder.exists_settles`** — there is no other outcome;
* **`Binder.exists_mem_settledNames`** — every accessor name is settled in some group.
-/

namespace AccessorSchema

namespace Binder

/-! ## Names settled in a group -/

/-- The names that are settled in the group of `name`, that name first and then one it has
`absorbed`. -/
def settledNames (b : Binder) (methods : List Method) (name : String) : List String :=
  name :: (b.settle (.ofMethods name methods)).absorbed.toList

/-- What `b.withoutOverloads` leaves of the methods of `name`. -/
def resolved (b : Binder) (methods : List Method) (name : String) : Unambiguous :=
  b.withoutOverloads (methodsNamed name methods)

section

variable {b : Binder} {methods : List Method}

/-- `(b.resolved methods name).handled` lists all methods of an overloaded name, and nothing
otherwise. -/
theorem mem_resolved_handled {name : String} {m : Method} :
    m ∈ (b.resolved methods name).handled ↔
      overloads (methodsNamed name methods) ≠ [] ∧ m ∈ methods ∧ m.name = name := by
  rw [resolved, mem_handled_withoutOverloads, mem_methodsNamed]

/-- `b.resolved methods name` for a name that does not occur: there are no overloads to report. -/
theorem resolved_of_methodsNamed_eq_nil {name : String} (hnil : methodsNamed name methods = []) :
    b.resolved methods name = { kept := [] } := by
  rw [resolved, hnil]
  rfl

/-- `n ∈ b.settledNames methods name` exactly if `n` is `name` or the name settled with it. -/
theorem mem_settledNames {name n : String} :
    n ∈ b.settledNames methods name ↔
      n = name ∨ (b.settle (.ofMethods name methods)).absorbed = some n := by
  rw [settledNames, List.mem_cons, Option.mem_toList]

variable (hb : b.groups = .ofMethods methods)

include hb

/-- **Names settled in one group share a residue**: beside `name`, only its `is` twin is settled
there. -/
theorem eq_or_twin_of_mem_settledNames {name n : String} (hn : n ∈ b.settledNames methods name) :
    n = name ∨ ∃ residue, isWellFormedResidue residue = true ∧
      plainGetters methods residue ≠ [] ∧ name = getterName .get residue ∧
      n = getterName .is residue := by
  rcases mem_settledNames.1 hn with heq | habs
  · exact .inl heq
  · obtain ⟨residue, hw, hplain, -, hname, htwin⟩ := (settle_absorbed_eq_some_iff hb).1 habs
    exact .inr ⟨residue, hw, hplain, hname, htwin⟩

/-- The `settledNames` of an accessor name are names of accessors. -/
theorem isAccessorName_of_mem_settledNames {name n : String}
    (hn : n ∈ b.settledNames methods name) (hacc : isAccessorName name = true) :
    isAccessorName n = true := by
  rcases eq_or_twin_of_mem_settledNames hb hn with rfl | ⟨residue, hw, -, -, rfl⟩
  · exact hacc
  · exact isAccessorName_getterName .is (ne_empty_of_isWellFormedResidue hw)

/-- **Every accessor name `n` is settled in some group** that is not in `b.absorbedNames`. -/
theorem exists_mem_settledNames {n : String} (hn : n ∈ methods.map Method.name)
    (hacc : isAccessorName n = true) :
    ∃ name ∈ methods.map Method.name, name ∉ b.absorbedNames ∧ isAccessorName name = true ∧
      n ∈ b.settledNames methods name := by
  by_cases habs : n ∈ b.absorbedNames
  · obtain ⟨residue, hw, hplain, hne, rfl⟩ := (mem_absorbedNames_iff hb).1 habs
    have hbinding : bindingName methods residue = getterName .get residue := by
      rw [bindingName, if_neg hplain]
    obtain ⟨d, hd⟩ := List.exists_mem_of_ne_nil _ hplain
    obtain ⟨hmem, hname, -⟩ := mem_plainGetters.1 hd
    refine ⟨getterName .get residue, hname ▸ List.mem_map_of_mem hmem, ?_, ?_, ?_⟩
    · rw [← hbinding]
      exact bindingName_not_mem_absorbedNames hb residue
    · exact isAccessorName_getterName .get (ne_empty_of_isWellFormedResidue hw)
    · refine mem_settledNames.2 (.inr ?_)
      exact (settle_absorbed_eq_some_iff hb).2 ⟨residue, hw, hplain, hne, rfl, rfl⟩
  · exact ⟨n, hn, habs, hacc, mem_settledNames.2 (.inl rfl)⟩

end

/-! ## Decisions -/

/-- **`Decides b methods name o`: what can be decided in the group of an accessor name**, once
overloads have been reported, is the outcome `o`. -/
inductive Decides (b : Binder) (methods : List Method) (name : String) : GroupOutcome → Prop
  /-- The getters of a residue are bound, to `b.boundOutcome`. -/
  | bound {residue : String} {getters : List Method} {a : Accessor}
      (name_eq : name = bindingName methods residue)
      (binds : BindsGetters b.hierarchy b.types methods residue getters)
      (made : Accessor.ofDeclarations? b.hierarchy getters = some a) :
      Decides b methods name (b.boundOutcome residue a)
  /-- The getter `m` of a residue is refused, and if the residue is one to be bound in this group
  (`bindingName`), then it is not bound at all. -/
  | refused {kind : GetterKind} {residue : String} {m : Method} {message : String}
      (name_eq : name = getterName kind residue) (mem : m ∈ methods)
      (named : ∃ kind, m.name = getterName kind residue)
      (unbound : name = bindingName methods residue →
        ∀ getters, ¬ BindsGetters b.hierarchy b.types methods residue getters) :
      Decides b methods name (b.refuse m message)
  /-- Nothing is decided: the `name` is that of a setter, or none of its methods remain. -/
  | nothing (idle : GetterName.classify name = .notGetter ∨
      unambiguous (methodsNamed name methods) = []) :
      Decides b methods name ∅

/-- **The group of `name` comes to the decision `o`**, with the overloads of all `settledNames`
reported beforehand. -/
structure Settles (b : Binder) (methods : List Method) (name : String) (o : GroupOutcome) :
    Prop where
  property : (b.settle (.ofMethods name methods)).property = o.property
  handled : (b.settle (.ofMethods name methods)).handled =
    ((b.settledNames methods name).flatMap fun n => (b.resolved methods n).handled) ++ o.handled
  journal : (b.settle (.ofMethods name methods)).journal =
    Journal.concat ((b.settledNames methods name).map fun n => (b.resolved methods n).journal) ++
      o.journal

section

variable {b : Binder} {methods : List Method} {name : String} {o : GroupOutcome}

/-- `m` is handled in the group of `name` if it is among the overloads of `settledNames`, or handled
in `o`. -/
theorem Settles.mem_handled_iff (h : b.Settles methods name o) {m : Method} :
    m ∈ (b.settle (.ofMethods name methods)).handled ↔
      (∃ n ∈ b.settledNames methods name, m ∈ (b.resolved methods n).handled) ∨ m ∈ o.handled := by
  rw [h.handled, List.mem_append, List.mem_flatMap]

/-- `d` is reported in the group of `name` if it is on the overloads of `settledNames`, or reported
in `o`. -/
theorem Settles.mem_diagnostics_iff (h : b.Settles methods name o) {d : Diagnostic} :
    d ∈ (b.settle (.ofMethods name methods)).journal.diagnostics ↔
      (∃ n ∈ b.settledNames methods name, d ∈ (b.resolved methods n).journal.diagnostics) ∨
        d ∈ o.journal.diagnostics := by
  rw [h.journal, Journal.diagnostics_append, List.mem_append, Journal.concat, List.flatMap_map,
    List.mem_flatMap]

/-- `b.Settles methods name o` for a group that settles no other: it reports on its own
overloads. -/
theorem settles_of_eq_after
    (heq : b.settle (.ofMethods name methods) =
      o.after (b.resolved methods name).handled (b.resolved methods name).journal)
    (habsorbed : o.absorbed = none) : b.Settles methods name o := by
  have hnames : b.settledNames methods name = [name] := by
    rw [settledNames, heq, GroupOutcome.after_absorbed, habsorbed]
    rfl
  refine ⟨?_, ?_, ?_⟩
  · rw [heq, GroupOutcome.after_property]
  · rw [heq, hnames]
    simp
  · rw [heq, hnames]
    simp

/-- `b.Settles methods name o` for a group that settles its `twin`: it reports on the overloads of
both names, its own first. -/
theorem settles_of_eq_after_twin {twin : String}
    (heq : b.settle (.ofMethods name methods) =
      ((o.after (b.resolved methods twin).handled (b.resolved methods twin).journal).absorbing
        (if methodsNamed twin methods = [] then none else some twin)).after
          (b.resolved methods name).handled (b.resolved methods name).journal) :
    b.Settles methods name o := by
  by_cases hnil : methodsNamed twin methods = []
  · -- No group of the twin's name: nothing is reported of it.
    have hnames : b.settledNames methods name = [name] := by
      rw [settledNames, heq, GroupOutcome.after_absorbed, GroupOutcome.absorbing_absorbed,
        if_pos hnil]
      rfl
    rw [resolved_of_methodsNamed_eq_nil hnil] at heq
    refine ⟨?_, ?_, ?_⟩
    · rw [heq]
      simp
    · rw [heq, hnames]
      simp
    · rw [heq, hnames]
      simp
  · have hnames : b.settledNames methods name = [name, twin] := by
      rw [settledNames, heq, GroupOutcome.after_absorbed, GroupOutcome.absorbing_absorbed,
        if_neg hnil]
      rfl
    refine ⟨?_, ?_, ?_⟩
    · rw [heq]
      simp
    · rw [heq, hnames]
      simp
    · rw [heq, hnames]
      simp [Journal.append_assoc]

end

/-! ## Every group comes to a decision -/

section

variable {b : Binder} {methods : List Method} {name residue : String} {getters : List Method}
  {o : GroupOutcome}

/-- `b.bindProperty kind residue getters` is `b.boundOutcome`, or one of `getters` is refused. -/
theorem bindProperty_bound_or_refused (b : Binder) (kind : GetterKind) (residue : String)
    (hne : getters ≠ []) :
    (∃ a, Accessor.ofDeclarations? b.hierarchy getters = some a ∧
        b.bindProperty kind residue getters = b.boundOutcome residue a) ∨
      ∃ m ∈ getters, ∃ message, b.bindProperty kind residue getters = b.refuse m message := by
  rcases b.bindProperty_cases kind residue getters with ⟨a, ha, heq⟩ | hrefused | ⟨hnil, -⟩
  · exact .inl ⟨a, ha.made, heq⟩
  · exact .inr hrefused
  · exact absurd hnil hne

/-- `b.mergeTwin residue primary getters twins` is `b.boundOutcome` of all of them, or one is
refused. -/
theorem mergeTwin_bound_or_refused (b : Binder) (residue : String) (primary : Method)
    {twins : List Method} (hne : getters ≠ []) :
    (∃ a, Accessor.ofDeclarations? b.hierarchy (getters ++ twins) = some a ∧
        b.mergeTwin residue primary getters twins = b.boundOutcome residue a) ∨
      ∃ m ∈ getters ++ twins, ∃ message,
        b.mergeTwin residue primary getters twins = b.refuse m message := by
  by_cases hnil : twins = []
  · subst hnil
    rw [mergeTwin_nil, List.append_nil]
    exact b.bindProperty_bound_or_refused .get residue hne
  · obtain ⟨twin, ht⟩ := b.hierarchy.exists_mostSpecific? hnil
    rw [mergeTwin_of_mostSpecific? ht]
    split
    · exact b.bindProperty_bound_or_refused .get residue (List.append_ne_nil_of_left_ne_nil hne _)
    · have hmem : twin ∈ getters ++ twins :=
        List.mem_append_right _ (TypeHierarchy.mem_of_mostSpecific? ht)
      exact .inr ⟨twin, hmem, _, rfl⟩

/-- What is `unambiguous` among the methods of `getterName kind residue` are getters of this
residue. -/
theorem named_of_mem_unambiguous {kind : GetterKind} {residue : String} {d : Method}
    (hd : d ∈ unambiguous (methodsNamed (getterName kind residue) methods)) :
    d ∈ methods ∧ ∃ kind, d.name = getterName kind residue := by
  obtain ⟨hmem, hname⟩ := mem_methodsNamed.1 (unambiguous_subset _ hd)
  exact ⟨hmem, kind, hname⟩

variable (hb : b.groups = .ofMethods methods)

include hb

/-- A residue whose group, that of `bindingName`, binds nothing is not bound by any getters. -/
theorem not_bindsGetters_of_property_eq_none
    (hnone : (b.settle (.ofMethods (bindingName methods residue) methods)).property = none) :
    ¬ BindsGetters b.hierarchy b.types methods residue getters := by
  intro hbinds
  obtain ⟨a, ha⟩ := Accessor.exists_ofDeclarations? b.hierarchy hbinds.ne_nil
  have hsome := (settle_bindingName_property_iff hb hbinds.wellFormed).2
    ⟨getters, a, hbinds, ha, rfl⟩
  rw [hnone] at hsome
  exact absurd hsome (by simp)

/-- `b.Decides methods name o` for the group that `residue` is bound in, if `o` is bound or
refused. -/
theorem decides_of_bound_or_refused (hw : isWellFormedResidue residue = true)
    (hname : name = bindingName methods residue)
    (hprop : (b.settle (.ofMethods name methods)).property = o.property)
    (hgetters : getters = plainGetters methods residue ++ twinGetters methods residue)
    (h : (∃ a, Accessor.ofDeclarations? b.hierarchy getters = some a ∧
        o = b.boundOutcome residue a) ∨ ∃ m ∈ getters, ∃ message, o = b.refuse m message) :
    b.Decides methods name o := by
  rcases h with ⟨a, ha, rfl⟩ | ⟨m, hm, message, rfl⟩
  · -- The property that is bound tells that the getters bind their residue.
    rw [hname] at hprop
    obtain ⟨getters', -, hbinds, -, -⟩ := (settle_bindingName_property_iff hb hw).1 hprop
    have heq : getters' = getters := hbinds.eq_append.trans hgetters.symm
    exact .bound hname (heq ▸ hbinds) ha
  · obtain ⟨hmem, hnamed⟩ := named_of_mem_getters (hgetters ▸ hm)
    refine .refused hname hmem hnamed fun _ getters => ?_
    exact not_bindsGetters_of_property_eq_none hb (hname ▸ hprop)

/-- The group of `getterName kind residue` comes to a decision if something remains of it. -/
theorem exists_settles_getter {kind : GetterKind} {primary : Method}
    (hw : isWellFormedResidue residue = true)
    (hname : getterName kind residue ∈ methods.map Method.name)
    (habs : getterName kind residue ∉ b.absorbedNames)
    (hp : b.hierarchy.mostSpecific?
      (unambiguous (methodsNamed (getterName kind residue) methods)) = some primary) :
    ∃ o, b.Decides methods (getterName kind residue) o ∧
      b.Settles methods (getterName kind residue) o := by
  have hsettle := settle_getter hw hp
  obtain ⟨hmem, hnamed⟩ := named_of_mem_unambiguous (TypeHierarchy.mem_of_mostSpecific? hp)
  by_cases harity : primary.arity ≠ 0
  · -- A getter with parameters is refused whatever its twin is.
    simp only [bindGetter, if_pos harity] at hsettle
    have hsettles : b.Settles methods (getterName kind residue) (b.refuse primary _) :=
      settles_of_eq_after hsettle rfl
    refine ⟨_, .refused rfl hmem hnamed fun hbinding getters => ?_, hsettles⟩
    exact not_bindsGetters_of_property_eq_none hb (hbinding ▸ hsettles.property)
  · simp only [bindGetter, if_neg harity, withoutOverloads_kept] at hsettle
    cases kind with
    | is =>
      -- The group is not absorbed, so there are no `get` getters to merge with.
      have hplain := plainGetters_eq_nil_of_not_mem_absorbedNames hb hw hname habs
      have hsettles := settles_of_eq_after hsettle (b.bindProperty_absorbed ..)
      have hne : twinGetters methods residue ≠ [] := TypeHierarchy.ne_nil_of_mostSpecific? hp
      refine ⟨_, decides_of_bound_or_refused hb hw ?_ hsettles.property ?_
        (b.bindProperty_bound_or_refused .is residue hne), hsettles⟩
      · rw [bindingName, if_pos hplain]
      · rw [hplain, List.nil_append]
        rfl
    | get =>
      -- The primary getter is one of `plainGetters`, and the twin is settled along with it.
      have h0 : primary.parameterTypes = [] := by simpa using harity
      obtain ⟨hin, hnm⟩ := mem_methodsNamed.1
        (unambiguous_subset _ (TypeHierarchy.mem_of_mostSpecific? hp))
      have hplain : plainGetters methods residue ≠ [] :=
        List.ne_nil_of_mem (mem_plainGetters.2 ⟨hin, hnm, h0⟩)
      rw [unambiguous_get hplain, bindWithDual_eq hb] at hsettle
      simp only [withoutOverloads_kept] at hsettle
      have hsettles := settles_of_eq_after_twin hsettle
      refine ⟨_, decides_of_bound_or_refused hb hw ?_ hsettles.property rfl
        (b.mergeTwin_bound_or_refused residue primary hplain), hsettles⟩
      rw [bindingName, if_neg hplain]

/-- **The group of an accessor name comes to a decision**, unless it is in `b.absorbedNames`. -/
theorem exists_settles (hname : name ∈ methods.map Method.name) (habs : name ∉ b.absorbedNames)
    (hacc : isAccessorName name = true) :
    ∃ o, b.Decides methods name o ∧ b.Settles methods name o := by
  have hsettle : b.settle (.ofMethods name methods) =
      b.settleAccessor name (methodsNamed name methods) := by
    rw [settle_ofMethods, if_pos hacc]
  cases htop : b.hierarchy.mostSpecific? (unambiguous (methodsNamed name methods)) with
  | none =>
    simp only [settleAccessor, withoutOverloads_kept, htop] at hsettle
    -- Overloads have left nothing to decide on.
    have hnil := TypeHierarchy.mostSpecific?_eq_none.1 htop
    exact ⟨∅, .nothing (.inr hnil), settles_of_eq_after hsettle rfl⟩
  | some primary =>
    rcases classify_eq_notGetter_or name with hnot | ⟨kind, residue, hr, rfl⟩
    · simp only [settleAccessor, withoutOverloads_kept, htop, hnot] at hsettle
      exact ⟨∅, .nothing (.inl hnot), settles_of_eq_after hsettle rfl⟩
    · by_cases hw : isWellFormedResidue residue = true
      · exact exists_settles_getter hb hw hname habs htop
      · have hclass := classify_getterName kind hr
        rw [if_neg hw] at hclass
        simp only [settleAccessor, withoutOverloads_kept, htop, hclass] at hsettle
        obtain ⟨hmem, hnamed⟩ := named_of_mem_unambiguous (TypeHierarchy.mem_of_mostSpecific? htop)
        refine ⟨_, .refused rfl hmem hnamed fun _ getters hbinds => hw hbinds.wellFormed,
          settles_of_eq_after hsettle rfl⟩

/-- **A residue with `BindsGetters` is bound in the group of `bindingName`.** -/
theorem settles_of_bindsGetters {a : Accessor}
    (hbinds : BindsGetters b.hierarchy b.types methods residue getters)
    (ha : Accessor.ofDeclarations? b.hierarchy getters = some a) :
    b.Settles methods (bindingName methods residue) (b.boundOutcome residue a) := by
  have hacc : isAccessorName (bindingName methods residue) = true :=
    isAccessorName_getterName _ (ne_empty_of_isWellFormedResidue hbinds.wellFormed)
  obtain ⟨o, hdecides, hsettles⟩ := exists_settles hb hbinds.bindingName_mem
    (bindingName_not_mem_absorbedNames hb residue) hacc
  cases hdecides with
  | @bound residue' getters' a' name_eq binds made =>
    -- Residue, getters and accessor are those given.
    obtain rfl : residue = residue' := (getterName_inj.1 name_eq).2
    obtain rfl : getters = getters' := hbinds.eq_append.trans binds.eq_append.symm
    obtain rfl : a = a' := Option.some.inj (ha.symm.trans made)
    exact hsettles
  | refused _ _ _ _ =>
    exact absurd hbinds (not_bindsGetters_of_property_eq_none hb hsettles.property)
  | nothing _ => exact absurd hbinds (not_bindsGetters_of_property_eq_none hb hsettles.property)

end

end Binder

end AccessorSchema
