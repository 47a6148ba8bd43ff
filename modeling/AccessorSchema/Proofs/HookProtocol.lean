import AccessorSchema.Proofs.BindingCalls
import Mathlib.Data.List.Nodup

/-!
# The questions of one extraction

Every name is settled in one group, be it its own or that of its counterpart, so that what is asked in
all groups is asked once:

* **`Binder.nodup_flatMap_settledNames`** — no name is settled in two groups;
* **`Binder.bindingCalls_bind`** — the properties of all groups are asked about in their order;
* **`Binder.filter_isOverride_bind`**, **`Binder.filter_isOverload_bind`** — the names that are reported;
* **`Extractor.HookProtocol`** — from the question about the hierarchy to the one about methods left over;
* **`Extractor.hookProtocol_recording`** — what the policy that records is asked follows the protocol.
-/

namespace AccessorSchema

namespace Binder

/-! ## Questions in all groups -/

/-- `ownNames`: the names of the groups that are settled on their own, in increasing order. -/
def ownNames (b : Binder) (methods : List Method) : List String :=
  (OrderedSet.ofList (methods.map Method.name)).toList.filter (· ∉ b.absorbedNames)

section

variable {b : Binder} {methods : List Method} {name : String}

/-- A name is among `ownNames` if it occurs and is not among `absorbedNames`. -/
theorem mem_ownNames :
    name ∈ b.ownNames methods ↔ name ∈ methods.map Method.name ∧ name ∉ b.absorbedNames := by
  rw [ownNames, List.mem_filter, decide_eq_true_eq]
  exact and_congr_left fun _ => OrderedSet.mem_ofList

/-- No group is settled twice: `ownNames` has no repetitions. -/
theorem nodup_ownNames : (b.ownNames methods).Nodup :=
  (OrderedSet.nodup_toList _).filter _

variable (hb : b.groups = .ofMethods methods)

include hb

/-- The `calls` of `bind` are those of `settle`, group by group. -/
theorem calls_bind :
    b.bind.journal.calls =
      (b.ownNames methods).flatMap fun name => (b.settle (.ofMethods name methods)).journal.calls := by
  have hcalls : b.bind.journal.calls =
      (b.outcomes.map GroupOutcome.journal).flatMap Journal.calls := rfl
  rw [hcalls]
  simp only [outcomes, hb, AccessorGroups.ofMethods, List.filter_map, List.flatMap_map]
  rfl

/-- A group that `settle` leaves `absorbed` by another is not settled on its own. -/
theorem mem_absorbedNames_of_absorbed {twin : String}
    (habs : (b.settle (.ofMethods name methods)).absorbed = some twin) : twin ∈ b.absorbedNames := by
  obtain ⟨residue, hw, hplain, htwins, -, htwin⟩ := (settle_absorbed_eq_some_iff hb).1 habs
  exact (mem_absorbedNames_iff hb).2 ⟨residue, hw, hplain, htwins, htwin⟩

/-- The `settledNames` of one group are different. -/
theorem nodup_settledNames : (b.settledNames methods name).Nodup := by
  rw [settledNames]
  cases habs : (b.settle (.ofMethods name methods)).absorbed with
  | none => exact List.nodup_singleton name
  | some twin =>
    obtain ⟨residue, -, -, -, rfl, rfl⟩ := (settle_absorbed_eq_some_iff hb).1 habs
    refine List.nodup_cons.2 ⟨fun hmem => ?_, List.nodup_singleton _⟩
    have hkind := (getterName_inj.1 (List.mem_singleton.1 hmem)).1
    exact absurd hkind (by decide)

/-- **No name is among the `settledNames` of two groups.** -/
theorem nodup_flatMap_settledNames :
    ((b.ownNames methods).flatMap (b.settledNames methods)).Nodup := by
  refine List.nodup_flatMap.2 ⟨fun name _ => nodup_settledNames hb, ?_⟩
  refine nodup_ownNames.imp_of_mem fun {name name'} hname hname' hne n hn hn' => ?_
  -- A twin is not settled on its own, and it is the twin of one name only.
  rcases mem_settledNames.1 hn with rfl | htwin
  · rcases mem_settledNames.1 hn' with rfl | htwin'
    · exact hne rfl
    · exact (mem_ownNames.1 hname).2 (mem_absorbedNames_of_absorbed hb htwin')
  · rcases mem_settledNames.1 hn' with rfl | htwin'
    · exact (mem_ownNames.1 hname').2 (mem_absorbedNames_of_absorbed hb htwin)
    · obtain ⟨r, -, -, -, rfl, rfl⟩ := (settle_absorbed_eq_some_iff hb).1 htwin
      obtain ⟨r', -, -, -, rfl, heq⟩ := (settle_absorbed_eq_some_iff hb).1 htwin'
      exact hne (congrArg _ (getterName_inj.1 heq).2)

/-- **Every name that occurs is among the `settledNames` of some group.** -/
theorem mem_flatMap_settledNames (hname : name ∈ methods.map Method.name) :
    name ∈ (b.ownNames methods).flatMap (b.settledNames methods) := by
  refine List.mem_flatMap.2 ?_
  by_cases hacc : isAccessorName name = true
  · obtain ⟨n, hn, habs, -, hsettled⟩ := exists_mem_settledNames hb hname hacc
    exact ⟨n, mem_ownNames.2 ⟨hn, habs⟩, hsettled⟩
  · have habs : name ∉ b.absorbedNames :=
      not_mem_absorbedNames_of_ordinary hb (by simpa using hacc)
    exact ⟨name, mem_ownNames.2 ⟨hname, habs⟩, mem_settledNames.2 (.inl rfl)⟩

variable {verdict : SetterVerdict} (hpolicy : b.policy = .recording verdict)

include hpolicy

/-- **The `calls` of `bind` are `BindingCalls`**, all of them. -/
theorem bindingCalls_bind :
    BindingCalls b.hierarchy methods b.bind.properties b.bind.journal.calls := by
  rw [calls_bind hb, bind_properties_eq hb]
  refine BindingCalls.flatMap fun name hname => ?_
  obtain ⟨hname, habs⟩ := mem_ownNames.1 hname
  obtain ⟨decided, hcalls, hbinding, -⟩ := exists_calls_settle hpolicy hb hname habs
  rw [hcalls]
  -- Reports come before what is decided.
  refine (BindingCalls.of_reports fun c hc => ?_).append hbinding
  rcases List.mem_append.1 hc with hover | hload
  · rw [eq_of_mem_reportIf hover]
    rfl
  · obtain ⟨n, -, hload⟩ := List.mem_flatMap.1 hload
    rw [eq_of_mem_reportIf hload]
    rfl

/-- **`isOverride` holds for one call of `bind` for each name with `overrideChains`**, and this is
its `overrideCall`. -/
theorem filter_isOverride_bind :
    b.bind.journal.calls.filter PolicyCall.isOverride =
      ((b.ownNames methods).filter fun name => isAccessorName name = false ∧
        overrideChains (methodsNamed name methods) ≠ []).map (overrideCall methods) := by
  rw [calls_bind hb, List.filter_flatMap, ← flatMap_reportIf]
  -- Of the three parts of what is asked in a group the first one alone reports override chains.
  refine List.flatMap_congr fun name hname => ?_
  obtain ⟨hname, habs⟩ := mem_ownNames.1 hname
  obtain ⟨decided, hcalls, -, hother⟩ := exists_calls_settle hpolicy hb hname habs
  have hdecided : decided.filter PolicyCall.isOverride = [] :=
    List.filter_eq_nil_iff.2 fun c hc => by simp [(hother c hc).1]
  have hoverloads : ((b.settledNames methods name).flatMap (overloadCalls methods)).filter
      PolicyCall.isOverride = [] := by
    rw [List.filter_flatMap]
    exact List.flatMap_eq_nil_iff.2 fun n _ => filter_reportIf_of_neg rfl
  rw [hcalls, List.filter_append, List.filter_append, hdecided, hoverloads, List.append_nil,
    List.append_nil]
  exact filter_reportIf_of_pos rfl

/-- **`isOverload` holds for one call of `bind` for each name with `overloads`**, and this is its
`overloadCall`. -/
theorem filter_isOverload_bind :
    b.bind.journal.calls.filter PolicyCall.isOverload =
      (((b.ownNames methods).flatMap (b.settledNames methods)).filter fun name =>
        overloads (overloadCandidates methods name) ≠ []).map (overloadCall methods) := by
  rw [calls_bind hb, List.filter_flatMap, ← flatMap_reportIf, List.flatMap_assoc]
  -- Overloads are reported of all names that are settled in a group, those of its twin included.
  refine List.flatMap_congr fun name hname => ?_
  obtain ⟨hname, habs⟩ := mem_ownNames.1 hname
  obtain ⟨decided, hcalls, -, hother⟩ := exists_calls_settle hpolicy hb hname habs
  have hdecided : decided.filter PolicyCall.isOverload = [] :=
    List.filter_eq_nil_iff.2 fun c hc => by simp [(hother c hc).2]
  have hchains : (overrideCalls methods name).filter PolicyCall.isOverload = [] :=
    filter_reportIf_of_neg rfl
  rw [hcalls, List.filter_append, List.filter_append, hdecided, hchains, List.append_nil,
    List.nil_append, List.filter_flatMap]
  exact List.flatMap_congr fun n _ => filter_reportIf_of_pos rfl

end

end Binder

/-! ## Extraction -/

/-- `coverageCalls left`: the call about methods that are `left` over, unless there are none. -/
def coverageCalls : List Method → List PolicyCall
  | [] => []
  | left => [.incompleteCoverage (left.map Method.qualifiedSignature)]

/-- An `AspectReader.ofRules` makes no calls. -/
theorem calls_ofRules (rules : List AspectRule) (subject : TypeName)
    (properties : List BoundProperty) :
    (AspectReader.ofRules rules subject properties).2.calls = [] := by
  refine List.flatMap_eq_nil_iff.2 fun j hj => ?_
  obtain ⟨rule, -, rfl⟩ := List.mem_map.1 hj
  cases rule.warning with
  | none => rfl
  | some message => rfl

namespace Extractor

/-- **`HookProtocol x m`: the calls of one extraction**, those of the binder with one before them
and one after. -/
structure HookProtocol (x : Extractor) (m : MethodSet) : Prop where
  /-- `validateHierarchy` is the first call, and `incompleteCoverage` the last one, if there is
  any. -/
  calls : (x.extract m).journal.calls =
    .validateHierarchy m.target.name ::
      ((x.binder m).bind.journal.calls ++ coverageCalls (x.extract m).unhandled)
  /-- `coverageCalls` are about the methods that `bind` has not `handled`, each once. -/
  left : (x.extract m).unhandled.Nodup ∧
    ∀ d, d ∈ (x.extract m).unhandled ↔ d ∈ m.methods ∧ d ∉ (x.binder m).bind.handled
  /-- Each property in turn is asked about, and its setter with it, as `BindingCalls` has it. -/
  bound : BindingCalls x.hierarchy m.methods (x.extract m).properties
    (x.binder m).bind.journal.calls
  /-- No other state is asked for: `isState` holds for as many calls as there are properties. -/
  classified : (x.binder m).bind.journal.calls.countP PolicyCall.isState =
    (x.extract m).properties.length
  /-- Override chains are reported once for each ordinary name that `DeclaresTwice`. -/
  overridden : ∃ names : List String, names.Nodup ∧
    (∀ name, name ∈ names ↔ DeclaresTwice m.methods name) ∧
    (x.binder m).bind.journal.calls.filter PolicyCall.isOverride =
      names.map (overrideCall m.methods)
  /-- Overloads are reported once for each name that `DiffersInParameters`. -/
  overloaded : ∃ names : List String, names.Nodup ∧
    (∀ name, name ∈ names ↔ DiffersInParameters m.methods name) ∧
    (x.binder m).bind.journal.calls.filter PolicyCall.isOverload =
      names.map (overloadCall m.methods)

/-- The four parts of the `calls` of `extract`, in order. -/
theorem calls_extract (x : Extractor) (m : MethodSet) :
    (x.extract m).journal.calls =
      (x.policy.validateHierarchy m.target).calls ++ (x.binder m).bind.journal.calls ++
        (checkCoverage x.policy m.target.name m.methods (x.binder m).bind.handled).2.calls ++
        (x.aspects m.target.name (x.extract m).properties).2.calls := rfl

section

variable {x : Extractor} {m : MethodSet} {verdict : SetterVerdict}
  (hpolicy : x.policy = .recording verdict)

include hpolicy

/-- The policy `recording` leaves unhandled all `leftovers`. -/
theorem unhandled_recording :
    (x.extract m).unhandled = leftovers m.methods (x.binder m).bind.handled := by
  rw [extract_unhandled, checkCoverage_unhandled, hpolicy]
  exact List.filter_eq_self.2 fun d _ => decide_eq_true (OrderedSet.not_mem_empty d)

/-- Under `recording`, `checkCoverage` makes the `coverageCalls` about all that is unhandled. -/
theorem calls_checkCoverage_recording :
    (checkCoverage x.policy m.target.name m.methods (x.binder m).bind.handled).2.calls =
      coverageCalls (x.extract m).unhandled := by
  rw [unhandled_recording hpolicy, hpolicy]
  unfold checkCoverage
  cases leftovers m.methods (x.binder m).bind.handled with
  | nil => rfl
  | cons d rest => rfl

/-- Under `bind`, override chains are reported once for each ordinary name that `DeclaresTwice`. -/
theorem exists_overridden_names :
    ∃ names : List String, names.Nodup ∧ (∀ name, name ∈ names ↔ DeclaresTwice m.methods name) ∧
      (x.binder m).bind.journal.calls.filter PolicyCall.isOverride =
        names.map (overrideCall m.methods) := by
  have hb := x.binder_groups m
  refine ⟨_, Binder.nodup_ownNames.filter _, fun name => ?_,
    Binder.filter_isOverride_bind hb hpolicy⟩
  rw [List.mem_filter, decide_eq_true_eq, declaresTwice_iff, Binder.mem_ownNames]
  -- A name that declares a signature twice occurs, and being ordinary it is settled on its own.
  refine ⟨And.right, fun htwice => ⟨?_, htwice⟩⟩
  obtain ⟨-, d, hd, -, -, hname, -⟩ := declaresTwice_iff.2 htwice
  exact ⟨hname ▸ List.mem_map_of_mem hd, Binder.not_mem_absorbedNames_of_ordinary hb htwice.1⟩

/-- Under `bind`, overloads are reported once for each name that `DiffersInParameters`. -/
theorem exists_overloaded_names :
    ∃ names : List String, names.Nodup ∧
      (∀ name, name ∈ names ↔ DiffersInParameters m.methods name) ∧
      (x.binder m).bind.journal.calls.filter PolicyCall.isOverload =
        names.map (overloadCall m.methods) := by
  have hb := x.binder_groups m
  refine ⟨_, (Binder.nodup_flatMap_settledNames hb).filter _, fun name => ?_,
    Binder.filter_isOverload_bind hb hpolicy⟩
  rw [List.mem_filter, decide_eq_true_eq, ← differsInParameters_iff]
  refine ⟨And.right, fun hdiffers => ⟨?_, hdiffers⟩⟩
  obtain ⟨d, hd, -, -, hname, -⟩ := hdiffers
  exact Binder.mem_flatMap_settledNames hb (hname ▸ List.mem_map_of_mem hd)

end

/-- The extractor `recording`, with `rules` for aspects. -/
def recordingAspects (verdict : SetterVerdict) (types : TypeSettings) (h : TypeHierarchy)
    (rules : List AspectRule) : Extractor :=
  { recording verdict types h with aspects := .ofRules rules }

/-- **What the policy `recording` is asked.** Whatever its `verdict`, the `HookProtocol` holds: the
policy is asked about the hierarchy first and once, then about each property in turn and about its
setter right after, with one report for each name that `DeclaresTwice` and for each that
`DiffersInParameters`, and last about the methods left over, if there are any. -/
theorem hookProtocol_recording (verdict : SetterVerdict) (types : TypeSettings) (h : TypeHierarchy)
    (rules : List AspectRule) (m : MethodSet) :
    (recordingAspects verdict types h rules).HookProtocol m := by
  have hpolicy : (recordingAspects verdict types h rules).policy = .recording verdict := rfl
  have hbound := Binder.bindingCalls_bind ((recordingAspects verdict types h rules).binder_groups m)
    hpolicy
  refine
    { calls := ?_
      left := ?_
      bound := hbound
      classified := hbound.countP_isState
      overridden := exists_overridden_names hpolicy
      overloaded := exists_overloaded_names hpolicy }
  · -- Of the four parts of the calls the aspects are silent, and the hierarchy is one call.
    have haspects : ((recordingAspects verdict types h rules).aspects m.target.name
        ((recordingAspects verdict types h rules).extract m).properties).2.calls = [] :=
      calls_ofRules rules _ _
    rw [calls_extract, calls_checkCoverage_recording hpolicy, haspects, List.append_nil,
      List.append_assoc, hpolicy]
    rfl
  · rw [unhandled_recording hpolicy]
    exact ⟨nodup_distinct _, fun d => mem_leftovers⟩

/-- The `overloads` of a twin are reported before the property is bound. -/
example :
    ((recording .reject {} {}).extract
      { target := { name := "T" }
        methods :=
          [{ name := "isX", declaringType := "T", returnType := "boolean" },
            { name := "setX", declaringType := "T", returnType := "void",
              parameterTypes := ["boolean"] },
            { name := "isX", declaringType := "T", returnType := "boolean",
              parameterTypes := ["int"] },
            { name := "getX", declaringType := "T", returnType := "boolean" },
            { name := "run", declaringType := "T", returnType := "void" }] }).journal.calls =
      [.validateHierarchy "T", .overloadedMethods ["T.isX()", "T.isX(int)"],
        .classifyState "T.getX()", .validateSetter "boolean" "T.setX(boolean)",
        .incompleteCoverage ["T.run()"]] := by cbv

end Extractor

end AccessorSchema
