import AccessorSchema.Proofs.HandledMethods
import AccessorSchema.Proofs.PropertyContent

/-!
# What a policy is asked while properties are bound

The policy that records remembers every question that it is asked. One group comes to few of them, and
always in the same order:

* **`PropertyCalls`**, **`BindingCalls`** — for each property in turn how its value is held, and right
  after that whether its setter will do, with reports in between;
* `DeclaresTwice`, `DiffersInParameters` — the names that are reported, in terms of the methods;
* **`Binder.exists_calls_settle`** — what is asked in one group: the overloads of a twin are reported in
  the group of its counterpart, before anything is decided.
-/

namespace AccessorSchema

/-! ## Questions -/

namespace PolicyCall

/-- Whether a call is `.overriddenMethods`, the report on override chains. -/
def isOverride : PolicyCall → Bool
  | .overriddenMethods _ => true
  | _ => false

/-- Whether a call is `.overloadedMethods`, the report on overloads. -/
def isOverload : PolicyCall → Bool
  | .overloadedMethods _ => true
  | _ => false

/-- `isReport`: whether a call reports something of a getter or of methods that share a name. -/
def isReport : PolicyCall → Bool
  | .invalidGetter _ _ => true
  | .overriddenMethods _ => true
  | .overloadedMethods _ => true
  | _ => false

/-- Whether a call is `.classifyState`, the question for the state of a property. -/
def isState : PolicyCall → Bool
  | .classifyState _ => true
  | _ => false

end PolicyCall

/-- **The questions by which the property `p` is bound**: `.classifyState` first, and then
`.validateSetter` if a method has the name of its setter. -/
inductive PropertyCalls (h : TypeHierarchy) (methods : List Method) (p : BoundProperty) :
    List PolicyCall → Prop
  /-- No method is named like the setter of `p`. -/
  | alone {residue : String} {top : Method} (hasResidue : p.HasResidue residue)
      (getter : h.mostSpecific? (p.declarations methods residue) = some top)
      (none : ∀ d ∈ methods, d.name ≠ setterName residue) :
      PropertyCalls h methods p [.classifyState top.qualifiedSignature]
  /-- Of the methods that are named like the setter of `p` the most specific is asked about. -/
  | withSetter {residue : String} {top setter : Method} (hasResidue : p.HasResidue residue)
      (getter : h.mostSpecific? (p.declarations methods residue) = some top)
      (some : h.mostSpecific? (methodsNamed (setterName residue) methods) = some setter) :
      PropertyCalls h methods p
        [.classifyState top.qualifiedSignature,
          .validateSetter p.valueType setter.qualifiedSignature]

/-- The questions `asked` about a property are no reports: none `isOverride`, and none
`isOverload`. -/
theorem PropertyCalls.not_report {h : TypeHierarchy} {methods : List Method} {p : BoundProperty}
    {asked : List PolicyCall} (hasks : PropertyCalls h methods p asked) :
    ∀ c ∈ asked, c.isOverride = false ∧ c.isOverload = false := by
  intro c hc
  cases hasks with
  | alone _ _ _ =>
    rw [List.mem_singleton.1 hc]
    exact ⟨rfl, rfl⟩
  | withSetter _ _ _ =>
    rcases List.mem_pair.1 hc with rfl | rfl
    · exact ⟨rfl, rfl⟩
    · exact ⟨rfl, rfl⟩

/-- **The questions by which `properties` are bound**, one property after the other
(`PropertyCalls`) and with reports in between. -/
inductive BindingCalls (h : TypeHierarchy) (methods : List Method) :
    List BoundProperty → List PolicyCall → Prop
  | nil : BindingCalls h methods [] []
  /-- Something is reported, by a call that `isReport`. -/
  | report {properties : List BoundProperty} {c : PolicyCall} {rest : List PolicyCall}
      (reports : c.isReport = true) (next : BindingCalls h methods properties rest) :
      BindingCalls h methods properties (c :: rest)
  /-- The property `p` is bound by the questions `asked`. -/
  | property {p : BoundProperty} {properties : List BoundProperty} {asked rest : List PolicyCall}
      (asks : PropertyCalls h methods p asked) (next : BindingCalls h methods properties rest) :
      BindingCalls h methods (p :: properties) (asked ++ rest)

namespace BindingCalls

variable {h : TypeHierarchy} {methods : List Method} {properties properties' : List BoundProperty}
  {calls calls' : List PolicyCall}

/-- `BindingCalls` of lists one after another: more properties are bound by further questions. -/
theorem append (hc : BindingCalls h methods properties calls)
    (hc' : BindingCalls h methods properties' calls') :
    BindingCalls h methods (properties ++ properties') (calls ++ calls') := by
  -- By induction on the questions that come first.
  induction hc with
  | nil => exact hc'
  | report reports _ ih => exact .report reports ih
  | property asks _ ih =>
    rw [List.append_assoc]
    exact .property asks ih

/-- Calls of which each `isReport` bind no property. -/
theorem of_reports (hc : ∀ c ∈ calls, c.isReport = true) : BindingCalls h methods [] calls := by
  induction calls with
  | nil => exact .nil
  | cons c calls ih =>
    exact .report (hc c List.mem_cons_self) (ih fun d hd => hc d (List.mem_cons_of_mem c hd))

/-- `BindingCalls` of a list of `names`: their properties are bound one after the other. -/
theorem flatMap {names : List String} {property : String → Option BoundProperty}
    {asked : String → List PolicyCall}
    (hc : ∀ name ∈ names, BindingCalls h methods (property name).toList (asked name)) :
    BindingCalls h methods (names.filterMap property) (names.flatMap asked) := by
  rw [List.filterMap_eq_flatMap_toList]
  induction names with
  | nil => exact .nil
  | cons name names ih =>
    rw [List.flatMap_cons, List.flatMap_cons]
    exact (hc name List.mem_cons_self).append (ih fun n hn => hc n (List.mem_cons_of_mem name hn))

/-- **The state of every property is asked for once**: as many `calls` are of the kind `isState` as
there are properties. -/
theorem countP_isState (hc : BindingCalls h methods properties calls) :
    calls.countP PolicyCall.isState = properties.length := by
  induction hc with
  | nil => rfl
  | @report _ c _ reports _ ih =>
    have hnot : ¬ c.isState = true := by
      cases c with
      | classifyState _ => exact absurd reports Bool.false_ne_true
      | _ => exact Bool.false_ne_true
    rw [List.countP_cons_of_neg hnot, ih]
  | property asks _ ih =>
    rw [List.countP_append, ih, List.length_cons, Nat.add_comm]
    cases asks with
    | alone _ _ _ => rfl
    | withSetter _ _ _ => rfl

end BindingCalls

/-! ## Reports on names -/

/-- The methods among which overloads of `name` are looked for: all methods of an accessor name, and
of any other name those outside `overrideChains`. -/
def overloadCandidates (methods : List Method) (name : String) : List Method :=
  if isAccessorName name then methodsNamed name methods
  else (methodsNamed name methods).filter
    (· ∉ (overrideChains (methodsNamed name methods)).flatten)

/-- **A signature of the ordinary `name` is declared by two different methods.** -/
def DeclaresTwice (methods : List Method) (name : String) : Prop :=
  isAccessorName name = false ∧
    ∃ d ∈ methods, ∃ d' ∈ methods, d.name = name ∧ d.SameSignature d' ∧ d ≠ d'

/-- **Two methods of `name` differ in parameters**, methods of override chains apart. -/
def DiffersInParameters (methods : List Method) (name : String) : Prop :=
  ∃ d ∈ methods, ∃ d' ∈ methods, d.name = name ∧ d'.name = name ∧
    d.parameterTypes ≠ d'.parameterTypes ∧
    (isAccessorName name = false → d.HasOwnSignature methods ∧ d'.HasOwnSignature methods)

section

variable {methods : List Method} {name : String}

/-- `d ∈ overloadCandidates methods name`: a method of that name which, for an ordinary name, has a
signature of its own. -/
theorem mem_overloadCandidates {d : Method} :
    d ∈ overloadCandidates methods name ↔
      d ∈ methods ∧ d.name = name ∧
        (isAccessorName name = false → d.HasOwnSignature methods) := by
  have hnodup : (methodsNamed name methods).Nodup := nodup_distinct _
  unfold overloadCandidates
  cases hacc : isAccessorName name with
  | true => simp [mem_methodsNamed]
  | false =>
    rw [if_neg Bool.false_ne_true, List.mem_filter, decide_eq_true_eq,
      mem_flatten_overrideChains_iff hnodup, mem_methodsNamed, and_assoc]
    refine and_congr_right fun hmem => and_congr_right fun hname => ?_
    rw [hasOwnSignature_methodsNamed_iff hname]
    simp [hmem, hname]

/-- **`DeclaresTwice methods name`** exactly if the ordinary `name` has `overrideChains`. -/
theorem declaresTwice_iff :
    DeclaresTwice methods name ↔
      isAccessorName name = false ∧ overrideChains (methodsNamed name methods) ≠ [] := by
  have hnodup : (methodsNamed name methods).Nodup := nodup_distinct _
  refine and_congr_right fun _ => ?_
  constructor
  · rintro ⟨d, hd, d', hd', hname, hsame, hne⟩ hnil
    have hmem : d' ∈ methodsNamed name methods :=
      mem_methodsNamed.2 ⟨hd', hsame.1.symm.trans hname⟩
    have hchain : d' ∈ (overrideChains (methodsNamed name methods)).flatten :=
      (mem_flatten_overrideChains_iff hnodup).2
        ⟨hmem, fun hown => hne (hown d (mem_methodsNamed.2 ⟨hd, hname⟩) hsame)⟩
    rw [hnil] at hchain
    exact absurd hchain List.not_mem_nil
  · intro hne
    -- A chain has a member, and the signature of the member is not its own.
    obtain ⟨chain, hc⟩ := List.exists_mem_of_ne_nil _ hne
    obtain ⟨d, hd⟩ : ∃ d, d ∈ chain := by
      have hlen := of_decide_eq_true (List.mem_filter.1 hc).2
      exact List.exists_mem_of_length_pos (Nat.lt_trans Nat.zero_lt_one hlen)
    obtain ⟨hmem, hown⟩ := (mem_flatten_overrideChains_iff hnodup).1
      (List.mem_flatten.2 ⟨chain, hc, hd⟩)
    unfold Method.HasOwnSignature at hown
    simp only [Classical.not_forall] at hown
    obtain ⟨d', hd', hsame, hdiffer⟩ := hown
    obtain ⟨hd', hname⟩ := mem_methodsNamed.1 hd'
    exact ⟨d', hd', d, (mem_methodsNamed.1 hmem).1, hname, hsame, hdiffer⟩

/-- **`DiffersInParameters methods name`** exactly if there are `overloads` among the
`overloadCandidates`. -/
theorem differsInParameters_iff :
    DiffersInParameters methods name ↔ overloads (overloadCandidates methods name) ≠ [] := by
  rw [ne_eq, overloads_eq_nil_iff]
  simp only [Classical.not_forall]
  constructor
  · rintro ⟨d, hd, d', hd', hname, hname', hdiffer, hown⟩
    exact ⟨d, mem_overloadCandidates.2 ⟨hd, hname, fun h => (hown h).1⟩, d',
      mem_overloadCandidates.2 ⟨hd', hname', fun h => (hown h).2⟩, fun hsame => hdiffer hsame.2⟩
  · rintro ⟨d, hd, d', hd', hdiffer⟩
    obtain ⟨hmem, hname, hown⟩ := mem_overloadCandidates.1 hd
    obtain ⟨hmem', hname', hown'⟩ := mem_overloadCandidates.1 hd'
    refine ⟨d, hmem, d', hmem', hname, hname', fun hsame => hdiffer ?_,
      fun h => ⟨hown h, hown' h⟩⟩
    exact ⟨hname.trans hname'.symm, hsame⟩

end

/-- The report of the `overrideChains` of `name`. -/
def overrideCall (methods : List Method) (name : String) : PolicyCall :=
  .overriddenMethods
    ((overrideChains (methodsNamed name methods)).map (·.map Method.qualifiedSignature))

/-- The report of the `overloads` of `name`. -/
def overloadCall (methods : List Method) (name : String) : PolicyCall :=
  .overloadedMethods
    ((overloads (overloadCandidates methods name)).map Method.qualifiedSignature)

/-- The report `c`, made under the condition `P`. -/
def reportIf (P : Prop) [Decidable P] (c : PolicyCall) : List PolicyCall := if P then [c] else []

section

variable {P : Prop} [Decidable P] {c d : PolicyCall} {select : PolicyCall → Bool}

theorem reportIf_of_pos (h : P) : reportIf P c = [c] := if_pos h

theorem reportIf_of_neg (h : ¬ P) : reportIf P c = [] := if_neg h

/-- `d = c` for every call `d` of `reportIf P c`. -/
theorem eq_of_mem_reportIf (h : d ∈ reportIf P c) : d = c :=
  List.mem_singleton.1 (List.mem_ite_nil_right.1 h).2

/-- A selection of calls takes `reportIf P c` if it takes `c`. -/
theorem filter_reportIf_of_pos (h : select c = true) :
    (reportIf P c).filter select = reportIf P c :=
  List.filter_eq_self.2 fun _ hd => eq_of_mem_reportIf hd ▸ h

theorem filter_reportIf_of_neg (h : select c = false) : (reportIf P c).filter select = [] :=
  List.filter_eq_nil_iff.2 fun _ hd => by simp [eq_of_mem_reportIf hd, h]

/-- The reports `f name` of those `names` for which the condition `P name` holds. -/
theorem flatMap_reportIf (P : String → Prop) [DecidablePred P] (f : String → PolicyCall)
    (names : List String) :
    (names.flatMap fun name => reportIf (P name) (f name)) = (names.filter P).map f := by
  induction names with
  | nil => rfl
  | cons name names ih =>
    rw [List.flatMap_cons, ih]
    by_cases hname : P name
    · simp [reportIf, hname]
    · simp [reportIf, hname]

end

/-- `overrideCall`, for an ordinary `name` that has override chains. -/
def overrideCalls (methods : List Method) (name : String) : List PolicyCall :=
  reportIf (isAccessorName name = false ∧ overrideChains (methodsNamed name methods) ≠ [])
    (overrideCall methods name)

/-- `overloadCall`, for a `name` that has overloads. -/
def overloadCalls (methods : List Method) (name : String) : List PolicyCall :=
  reportIf (overloads (overloadCandidates methods name) ≠ []) (overloadCall methods name)

/-! ## Questions in one group -/

namespace Binder

section

variable {b : Binder} {methods getters : List Method} {name residue : String} {a : Accessor}
  {o : GroupOutcome} {verdict : SetterVerdict} (hpolicy : b.policy = .recording verdict)

include hpolicy

/-- The calls of `withoutOverloads` for the `overloadCandidates` of `name` are its
`overloadCalls`. -/
theorem calls_withoutOverloads :
    (b.withoutOverloads (overloadCandidates methods name)).journal.calls =
      overloadCalls methods name := by
  unfold overloadCalls
  by_cases ho : overloads (overloadCandidates methods name) = []
  · rw [reportIf_of_neg (not_not_intro ho), journal_withoutOverloads_of_eq_nil b ho]
    rfl
  · rw [reportIf_of_pos ho, journal_withoutOverloads_of_ne_nil b ho, hpolicy]
    rfl

/-- The calls of `b.resolved`, for an accessor `name`, are its `overloadCalls`. -/
theorem calls_resolved (hacc : isAccessorName name = true) :
    (b.resolved methods name).journal.calls = overloadCalls methods name := by
  have hall : overloadCandidates methods name = methodsNamed name methods := if_pos hacc
  rw [resolved, ← hall]
  exact calls_withoutOverloads hpolicy

/-- The calls of `b.settle` for an ordinary `name` are its `overrideCalls`, and then its
`overloadCalls`. -/
theorem calls_settle_ordinary (hacc : isAccessorName name = false) :
    (b.settle (.ofMethods name methods)).journal.calls =
      overrideCalls methods name ++ overloadCalls methods name := by
  have hrest : overloadCandidates methods name = (methodsNamed name methods).filter
      (· ∉ (overrideChains (methodsNamed name methods)).flatten) :=
    if_neg (by rw [hacc]; exact Bool.false_ne_true)
  rw [settle_ordinary hacc, settleOrdinary_eq, GroupOutcome.after_journal,
    GroupOutcome.after_journal]
  simp only [Journal.calls_append]
  rw [← hrest, calls_withoutOverloads hpolicy, overrideCalls]
  by_cases hnil : overrideChains (methodsNamed name methods) = []
  · rw [if_pos hnil, reportIf_of_neg fun h => h.2 hnil]
    exact List.append_nil _
  · rw [if_neg hnil, reportIf_of_pos ⟨hacc, hnil⟩, hpolicy]
    exact congrArg (_ :: ·) (List.append_nil _)

variable (hb : b.groups = .ofMethods methods)

include hb

/-- **A residue that is bound is asked about**: the calls of `b.boundOutcome residue a` are
`PropertyCalls` of its property. -/
theorem propertyCalls_boundOutcome
    (hbinds : BindsGetters b.hierarchy b.types methods residue getters)
    (ha : Accessor.ofDeclarations? b.hierarchy getters = some a) :
    PropertyCalls b.hierarchy methods (b.propertyOf residue a)
      (b.boundOutcome residue a).journal.calls := by
  have hresidue : (b.propertyOf residue a).HasResidue residue := hbinds.hasResidue ha b
  have hgetter : b.hierarchy.mostSpecific? ((b.propertyOf residue a).declarations methods residue) =
      some a.mostSpecific := by
    rw [hbinds.declarations_propertyOf ha]
    exact Accessor.mostSpecific?_eq ha
  have hstate : (b.policy.classifyState b.subject a).2.calls =
      [.classifyState a.mostSpecific.qualifiedSignature] := by
    rw [hpolicy]
    rfl
  have hsetters := setterOf_eq hb residue
  rw [boundOutcome, Journal.calls_append, hstate]
  -- The methods of the setter's name make an accessor unless there are none.
  cases hs : Accessor.ofDeclarations? b.hierarchy (methodsNamed (setterName residue) methods) with
  | none =>
    rw [hs] at hsetters
    rw [hsetters]
    refine .alone hresidue hgetter fun d hd hname => ?_
    obtain ⟨s, hsome⟩ := Accessor.exists_ofDeclarations? b.hierarchy
      (List.ne_nil_of_mem (mem_methodsNamed.2 ⟨hd, hname⟩))
    rw [hs] at hsome
    exact absurd hsome (by simp)
  | some setter =>
    rw [hs] at hsetters
    have hasked : (b.bindSetter a.mostSpecific.returnType a (some setter)).2.calls =
        [.validateSetter (b.propertyOf residue a).valueType
          setter.mostSpecific.qualifiedSignature] := by
      rw [bindSetter_journal, hpolicy]
      cases verdict with
      | accept => rfl
      | reject => rfl
    rw [hsetters, hasked]
    exact .withSetter hresidue hgetter (Accessor.mostSpecific?_eq hs)

/-- **What is decided in a group is asked for** by `BindingCalls`, none of which `isOverride` or
`isOverload`. -/
theorem Decides.bindingCalls (hdecides : b.Decides methods name o) :
    BindingCalls b.hierarchy methods o.property.toList o.journal.calls ∧
      ∀ c ∈ o.journal.calls, c.isOverride = false ∧ c.isOverload = false := by
  cases hdecides with
  | @bound residue getters a _ binds made =>
    have hasks := propertyCalls_boundOutcome hpolicy hb binds made
    refine ⟨?_, hasks.not_report⟩
    rw [← List.append_nil (b.boundOutcome residue a).journal.calls]
    exact .property hasks .nil
  | @refused _ _ m message _ _ _ _ =>
    -- Refusing a getter is a report, and it is neither on overrides nor on overloads.
    have hcalls : (b.refuse m message).journal.calls =
        [.invalidGetter m.qualifiedSignature message] := by
      rw [refuse, GroupOutcome.ofJournal, hpolicy]
      rfl
    rw [hcalls]
    refine ⟨.report rfl .nil, fun c hc => ?_⟩
    rw [List.mem_singleton.1 hc]
    exact ⟨rfl, rfl⟩
  | nothing _ => exact ⟨.nil, fun c hc => absurd hc List.not_mem_nil⟩

/-- **What is asked in the group of `name`**: its `overrideCalls`, the `overloadCalls` of the names
that are settled in it, and then what is decided. -/
theorem exists_calls_settle (hname : name ∈ methods.map Method.name)
    (habs : name ∉ b.absorbedNames) :
    ∃ decided, (b.settle (.ofMethods name methods)).journal.calls =
        overrideCalls methods name ++ (b.settledNames methods name).flatMap (overloadCalls methods) ++
          decided ∧
      BindingCalls b.hierarchy methods (b.settle (.ofMethods name methods)).property.toList decided ∧
      ∀ c ∈ decided, c.isOverride = false ∧ c.isOverload = false := by
  by_cases hacc : isAccessorName name = true
  · obtain ⟨o, hdecides, hsettles⟩ := exists_settles hb hname habs hacc
    obtain ⟨hbinding, hother⟩ := hdecides.bindingCalls hpolicy hb
    have hresolved : (Journal.concat ((b.settledNames methods name).map
        fun n => (b.resolved methods n).journal)).calls =
          (b.settledNames methods name).flatMap (overloadCalls methods) := by
      show List.flatMap Journal.calls (List.map _ _) = _
      rw [List.flatMap_map]
      refine List.flatMap_congr fun n hn => ?_
      exact calls_resolved hpolicy (isAccessorName_of_mem_settledNames hb hn hacc)
    refine ⟨o.journal.calls, ?_, hsettles.property ▸ hbinding, hother⟩
    -- Override chains are looked for among ordinary names only.
    rw [hsettles.journal, Journal.calls_append, hresolved, overrideCalls,
      reportIf_of_neg fun h => Bool.false_ne_true (h.1.symm.trans hacc), List.nil_append]
  · have hord : isAccessorName name = false := by simpa using hacc
    have hnone := b.settleOrdinary_property (methodsNamed name methods)
    have hnames : b.settledNames methods name = [name] := by
      rw [settledNames, settle_ordinary hord, hnone.2]
      rfl
    refine ⟨[], ?_, ?_, fun c hc => absurd hc List.not_mem_nil⟩
    · rw [calls_settle_ordinary hpolicy hord, hnames, List.append_nil, List.flatMap_cons,
        List.flatMap_nil, List.append_nil]
    · rw [settle_ordinary hord, hnone.1]
      exact .nil

end

end Binder

end AccessorSchema
