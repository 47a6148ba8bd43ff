import AccessorSchema.Policy.Recording
import AccessorSchema.Proofs.CollectedDiagnostics
import AccessorSchema.Proofs.GetterShape

/-!
# Diagnostics stay inside their type

A diagnostic is raised by a hook that is told of a type and of some of its methods, or by the remark of a
request, long after its owner was extracted. Neither speaks of anything else than what it was told of,
so that a diagnostic is about the type whose extraction raised it and lists methods of that type only.

* **`Diagnostic.Inside`** — a diagnostic about a type that lists none but given methods;
* **`Policy.Confined`**, **`AspectReader.Confined`** — policies and aspect readers that keep to what they
  are told of, as both policies and all rules for aspects do;
* `Extractor.accessors_subset` — what a property is bound to are methods that were given;
* **`Extractor.inside_of_mem_diagnostics`** — the diagnostics of an extraction stay inside its type;
* **`TypeSource.inside_of_mem_owed`** — so do those that come of the type later;
* **`Extractor.diagnostics_inside`** — extractions and stores under either policy.
-/

namespace AccessorSchema

/-- **The diagnostic `d` stays inside `subject`** if it is about this type and lists none but given
`methods`. -/
structure Diagnostic.Inside (d : Diagnostic) (subject : TypeName) (methods : List Method) : Prop where
  subject : d.subject = subject
  methods : d.methods ⊆ methods

/-- `Diagnostic.Inside` with more methods given. -/
theorem Diagnostic.Inside.mono {d : Diagnostic} {subject : TypeName} {methods methods' : List Method}
    (h : d.Inside subject methods) (hsub : methods ⊆ methods') : d.Inside subject methods' :=
  ⟨h.subject, List.Subset.trans h.methods hsub⟩

/-- A diagnostic of `Journal.error` stays inside the type it is about. -/
theorem Journal.inside_of_mem_error {kind : DiagnosticKind} {subject : TypeName}
    {methods : List Method} {message : String} {d : Diagnostic}
    (hd : d ∈ (Journal.error kind subject methods message).diagnostics) :
    d.Inside subject methods := by
  obtain rfl := List.mem_singleton.1 hd
  exact ⟨rfl, List.Subset.refl _⟩

/-- The methods that `p` is bound to. -/
def BoundProperty.accessors (p : BoundProperty) : List Method :=
  p.getterBindings ++ p.setterBinding.toList

/-! ## Policies and aspect readers -/

/-- **`Confined policy`: a policy that keeps to what it is told of.** The diagnostics of each hook
are about the type it is asked for, and they list none but the methods it is asked about. -/
structure Policy.Confined (policy : Policy) : Prop where
  hierarchy : ∀ {target : TypeDescriptor} {d : Diagnostic},
    d ∈ (policy.validateHierarchy target).diagnostics → d.Inside target.name []
  state : ∀ {subject : TypeName} {getter : Accessor} {methods : List Method} {d : Diagnostic},
    getter.Among methods → d ∈ (policy.classifyState subject getter).2.diagnostics →
      d.Inside subject methods
  setter : ∀ {subject valueType : TypeName} {getter setter : Accessor} {methods : List Method}
    {d : Diagnostic}, getter.Among methods → setter.Among methods →
      d ∈ (policy.validateSetter subject valueType getter setter).2.diagnostics →
        d.Inside subject methods
  getter : ∀ {subject : TypeName} {m : Method} {message : String} {d : Diagnostic},
    d ∈ (policy.invalidGetter subject m message).diagnostics → d.Inside subject [m]
  overridden : ∀ {subject : TypeName} {chains : List (List Method)} {d : Diagnostic},
    d ∈ (policy.overriddenMethods subject chains).diagnostics → d.Inside subject chains.flatten
  overloaded : ∀ {subject : TypeName} {methods : List Method} {d : Diagnostic},
    d ∈ (policy.overloadedMethods subject methods).diagnostics → d.Inside subject methods
  coverage : ∀ {subject : TypeName} {all left : List Method} {d : Diagnostic},
    d ∈ (policy.incompleteCoverage subject all left).2.diagnostics → d.Inside subject left
  /-- Remarks on the value type of a property are about the `owner` of the property. -/
  value : ∀ {owner : TypeName} {p : BoundProperty} {schema : ModelSchema} {d : Diagnostic},
    d ∈ policy.validateProperty owner p schema → d.Inside owner p.accessors

/-- **`Confined aspects`: an aspect reader that keeps to what it is told of**, a type with bound
properties. -/
def AspectReader.Confined (aspects : AspectReader) : Prop :=
  ∀ {subject : TypeName} {properties : List BoundProperty} {d : Diagnostic},
    d ∈ (aspects subject properties).2.diagnostics →
      d.Inside subject (properties.flatMap BoundProperty.accessors)

/-- `AspectReader.ofRules` gives warnings that list no method. -/
theorem AspectReader.confined_ofRules (rules : List AspectRule) :
    (AspectReader.ofRules rules).Confined := by
  intro subject properties d hd
  obtain ⟨j, hj, hmem⟩ := List.mem_flatMap.1 hd
  obtain ⟨rule, -, rfl⟩ := List.mem_map.1 hj
  cases hw : rule.warning with
  | none =>
    simp only [hw] at hmem
    exact absurd hmem List.not_mem_nil
  | some message =>
    simp only [hw] at hmem
    obtain rfl := List.mem_singleton.1 hmem
    exact ⟨rfl, List.nil_subset _⟩

namespace Policy

/-- `Policy.managed` keeps to what it is told of. -/
theorem confined_managed (types : TypeSettings) : (Policy.managed types).Confined where
  hierarchy hd := by
    simp only [Policy.managed] at hd
    split at hd
    · exact Journal.inside_of_mem_error hd
    · exact absurd hd List.not_mem_nil
  state _ hd := absurd hd List.not_mem_nil
  setter _ hsetter hd := by
    simp only [Policy.managed] at hd
    split at hd
    · exact absurd hd List.not_mem_nil
    · -- Each problem is reported of the most specific setter.
      obtain ⟨j, hj, hmem⟩ := List.mem_flatMap.1 hd
      obtain ⟨reason, -, rfl⟩ := List.mem_map.1 hj
      exact (Journal.inside_of_mem_error hmem).mono
        (List.cons_subset.2 ⟨hsetter.mostSpecific, List.nil_subset _⟩)
  getter hd := Journal.inside_of_mem_error hd
  overridden hd := by
    obtain ⟨j, hj, hmem⟩ := List.mem_flatMap.1 hd
    -- The report on a chain lists that chain.
    obtain ⟨chain, hchain, rfl⟩ := List.mem_map.1 hj
    split at hmem
    · exact absurd hmem List.not_mem_nil
    · exact (Journal.inside_of_mem_error hmem).mono
        fun m hm => List.mem_flatten.2 ⟨chain, hchain, hm⟩
  overloaded hd := Journal.inside_of_mem_error hd
  coverage hd := by
    simp only [Policy.managed] at hd
    split at hd
    · exact absurd hd List.not_mem_nil
    · exact (Journal.inside_of_mem_error hd).mono (List.filter_subset_self _)
  value {_ _ schema _} hd := by
    cases schema with
    | unknown typeName =>
      obtain rfl := List.mem_singleton.1 hd
      exact ⟨rfl, List.nil_subset _⟩
    | value _ => exact absurd hd List.not_mem_nil
    | struct _ => exact absurd hd List.not_mem_nil

/-- `Policy.recording` keeps to what it is told of: it reports nothing. -/
theorem confined_recording (verdict : SetterVerdict) : (Policy.recording verdict).Confined where
  hierarchy hd := absurd hd List.not_mem_nil
  state _ hd := absurd hd List.not_mem_nil
  setter _ hsetter hd := by
    cases verdict with
    | accept => exact absurd hd List.not_mem_nil
    | reject => exact (Journal.inside_of_mem_error hd).mono hsetter.declarations
  getter hd := Journal.inside_of_mem_error hd
  overridden hd := Journal.inside_of_mem_error hd
  overloaded hd := Journal.inside_of_mem_error hd
  coverage hd := Journal.inside_of_mem_error hd
  value hd := absurd hd List.not_mem_nil

end Policy

/-! ## Extraction -/

/-- **Diagnostics of binding, `b.Raises methods d`, stay inside the type** if the policy is
`Confined`. -/
theorem Binder.Raises.inside {b : Binder} {methods : List Method} {d : Diagnostic}
    (h : b.Raises methods d) (hpolicy : b.policy.Confined) : d.Inside b.subject methods := by
  cases h with
  | state among raised => exact hpolicy.state among raised
  | setter getter_among setter_among raised =>
    exact hpolicy.setter getter_among setter_among raised
  | getter mem raised =>
    exact (hpolicy.getter raised).mono (List.cons_subset.2 ⟨mem, List.nil_subset _⟩)
  | overridden subset raised =>
    refine (hpolicy.overridden raised).mono fun m hm => ?_
    obtain ⟨chain, hchain, hmem⟩ := List.mem_flatten.1 hm
    exact subset chain hchain hmem
  | overloaded subset raised => exact (hpolicy.overloaded raised).mono subset

namespace Extractor

variable {x : Extractor} {m : MethodSet} {d : Diagnostic}

/-- **A property is bound to methods that were given**: `p.accessors ⊆ m.methods`. -/
theorem accessors_subset {p : BoundProperty} (hp : p ∈ (x.extract m).properties) :
    p.accessors ⊆ m.methods := by
  obtain ⟨residue, getters, a, hbinds, ha, rfl⟩ := (mem_extract_properties_iff x m).1 hp
  refine List.append_subset.2 ⟨fun g hg => ?_, fun s hs => ?_⟩
  · exact (hbinds.named (Accessor.getters_subset ha hg)).1
  · -- A setter that is bound is the most specific one of the residue.
    have hbound : ((x.binder m).bindSetter a.mostSpecific.returnType a
      ((x.binder m).setterOf residue)).1 = some s := Option.mem_toList.1 hs
    cases hsetter : (x.binder m).setterOf residue with
    | none => simp [hsetter, Binder.bindSetter] at hbound
    | some setter =>
      rw [hsetter] at hbound
      rw [Binder.eq_of_bindSetter_eq_some hbound]
      exact (Binder.among_of_setterOf (x.binder_groups m) hsetter).mostSpecific

variable (hpolicy : x.policy.Confined) (haspects : x.aspects.Confined)

include hpolicy haspects

/-- **The diagnostics of `x.extract m` stay inside `m.target`.** -/
theorem inside_of_mem_diagnostics (hd : d ∈ (x.extract m).diagnostics) :
    d.Inside m.target.name m.methods := by
  cases raises_of_mem_diagnostics hd with
  | hierarchy raised => exact (hpolicy.hierarchy raised).mono (List.nil_subset _)
  | binding raises => exact raises.inside hpolicy
  | coverage subset raised => exact (hpolicy.coverage raised).mono subset
  | aspects raised =>
    refine (haspects raised).mono fun g hg => ?_
    obtain ⟨p, hp, hmem⟩ := List.mem_flatMap.1 hg
    exact accessors_subset hp hmem

end Extractor

/-! ## Stores -/

namespace TypeSource

variable {source : TypeSource} (hpolicy : source.extractor.policy.Confined)
  (haspects : source.extractor.aspects.Confined) {t : TypeName} {d : Diagnostic}

include hpolicy haspects

/-- **All that is `owed` for `t` stays inside it**, and only of a declared type anything comes. -/
theorem inside_of_mem_owed (hd : d ∈ source.owed t) :
    ∃ m, source.catalog.methodSet? t = some m ∧ d.Inside t m.methods := by
  cases he : source.extraction? t with
  | none =>
    obtain ⟨schema, -, hdescribe⟩ := describe_of_extraction?_eq_none he
    rw [owed, hdescribe] at hd
    exact absurd hd List.not_mem_nil
  | some e =>
    obtain ⟨m, hm, rfl, hdescribe⟩ := exists_of_extraction?_eq_some he
    have hname : m.target.name = t := Catalog.target_name_of_methodSet? hm
    refine ⟨m, hm, ?_⟩
    rw [← hname]
    rw [owed, hdescribe, List.mem_append] at hd
    rcases hd with hd | hd
    · exact source.extractor.inside_of_mem_diagnostics hpolicy haspects hd
    · -- A request remarks on a property of the type, whatever the schema of its value type is.
      obtain ⟨r, hr, hremark⟩ := List.mem_flatMap.1 hd
      obtain ⟨p, hp, -, rfl⟩ := Extractor.mem_requests_extract_iff.1 hr
      exact (hpolicy.value hremark).mono (Extractor.accessors_subset hp)

end TypeSource

namespace Extractor

/-- **Diagnostics stay inside their type.** Under `Policy.managed` and under `Policy.recording`,
every diagnostic of `extract` is `Inside` the target and the given methods: it is about the one and
lists methods of the others only; and after any sequence of calls, every diagnostic of a store is
about a type with a schema, which is declared, and lists methods visible on that type only. Aspects,
which are read by a reader of the caller's, have to be `Confined` to what they are told of, as rules
are and no reader at all is. -/
theorem diagnostics_inside (x : Extractor)
    (hpolicy : (∃ types, x.policy = .managed types) ∨ ∃ verdict, x.policy = .recording verdict)
    (haspects : x.aspects.Confined) :
    (∀ m, ∀ d ∈ (x.extract m).diagnostics, d.Inside m.target.name m.methods) ∧
      ∀ catalog roots, ∀ d ∈ (SchemaStore.afterCalls ⟨catalog, x⟩ roots).diagnostics,
        d.subject ∈ (SchemaStore.afterCalls ⟨catalog, x⟩ roots).schemas.keys ∧
          ∃ m, catalog.methodSet? d.subject = some m ∧ d.Inside d.subject m.methods := by
  have hconfined : x.policy.Confined := by
    rcases hpolicy with ⟨types, heq⟩ | ⟨verdict, heq⟩
    · rw [heq]
      exact Policy.confined_managed types
    · rw [heq]
      exact Policy.confined_recording verdict
  refine ⟨fun m d hd => inside_of_mem_diagnostics hconfined haspects hd,
    fun catalog roots d hd => ?_⟩
  -- What a store has collected is owed for the types with a schema.
  have howed := (SchemaStore.collected_afterCalls ⟨catalog, x⟩ roots).mem_iff.1 hd
  obtain ⟨t, ht, hd⟩ := List.mem_flatMap.1 howed
  obtain ⟨m, hm, hinside⟩ := TypeSource.inside_of_mem_owed hconfined haspects hd
  rw [hinside.subject]
  exact ⟨ht, m, hm, hinside⟩

/-- A catalog of an interface `T` with a property of an undeclared type and a method that is no
accessor. -/
def strayBesideUndeclared : Catalog where
  types :=
    ⟨[("T", { name := "T", methods := [{ name := "getX", returns := "U" },
        { name := "run", returns := "void" }] })],
      List.pairwise_singleton _ _⟩
  name_eq := by
    intro name d h
    simp [OrderedMap.get?, OrderedMap.lookup] at h
    obtain ⟨rfl, rfl⟩ := h
    rfl

/-- The extraction of `managed` structs with a rule that warns. -/
def warning : Extractor :=
  { managed {} {} {} with
    aspects := .ofRules [⟨"editable", BoundProperty.isWritable, some "look here"⟩] }

/-- The stray method, the warning and the value type are each reported of `"T"`. -/
theorem strayBesideUndeclared_inside :
    (SchemaStore.afterCalls ⟨strayBesideUndeclared, warning⟩ ["T"]).diagnostics.length = 3 ∧
      ∀ d ∈ (SchemaStore.afterCalls ⟨strayBesideUndeclared, warning⟩ ["T"]).diagnostics,
        d.subject ∈ (SchemaStore.afterCalls ⟨strayBesideUndeclared, warning⟩ ["T"]).schemas.keys ∧
          ∃ m, strayBesideUndeclared.methodSet? d.subject = some m ∧ d.Inside d.subject m.methods :=
  ⟨by cbv, (diagnostics_inside warning (.inl ⟨{}, rfl⟩) (AspectReader.confined_ofRules _)).2
    strayBesideUndeclared ["T"]⟩

end Extractor

end AccessorSchema
