import Mathlib
import AccessorSchema.Proofs.Reachability
import AccessorSchema.Proofs.Reporting

/-!
# Every diagnostic is collected once

What a store has collected came from two sources: the extraction of a type, and the remarks of a
request on the schema it had asked for. A request is answered when it leaves the queue, which can
be long after its type was described, but it is answered once.

* **`SchemaStore.Balanced`** — at every step the diagnostics collected, with the remarks still to
  come from the queue, are those owed for the types that have a schema;
* **`SchemaStore.collected_afterCalls`** — with the queue empty, what is owed is collected;
* **`TypeSource.remarks_of_managed`** — what the policy for managed structs remarks on value types;
* **`SchemaStore.diagnostics_afterCalls`** — the diagnostics of a store after any sequence of calls.
-/

namespace AccessorSchema

open scoped List

namespace TypeSource

variable {source : TypeSource} {t : TypeName}

/-- The extraction of `t`, if it is declared and no scalar. -/
def extraction? (source : TypeSource) (t : TypeName) : Option Extraction :=
  if source.extractor.types.isScalar t then none
  else (source.catalog.methodSet? t).map source.extractor.extract

/-- A type with no `source.extraction? t` has nothing but its schema, and is no struct. -/
theorem describe_of_extraction?_eq_none (h : source.extraction? t = none) :
    ∃ schema, schema.struct? = none ∧ source.describe t = { schema } := by
  cases hs : source.extractor.types.isScalar t with
  | true => exact ⟨.value t, rfl, describe_of_isScalar hs⟩
  | false =>
    simp only [extraction?, hs, Bool.false_eq_true, if_false, Option.map_eq_none_iff] at h
    exact ⟨.unknown t, rfl, describe_of_undeclared hs h⟩

/-- `source.extraction? t` is that of the methods of a declared type, and what `source.describe t`
holds. -/
theorem exists_of_extraction?_eq_some {e : Extraction} (h : source.extraction? t = some e) :
    ∃ methods, source.catalog.methodSet? t = some methods ∧
      e = source.extractor.extract methods ∧
      source.describe t =
        { schema := e.schema, diagnostics := e.diagnostics, requests := e.requests } := by
  cases hs : source.extractor.types.isScalar t with
  | true => simp [extraction?, hs] at h
  | false =>
    simp only [extraction?, hs, Bool.false_eq_true, if_false, Option.map_eq_some_iff] at h
    obtain ⟨methods, hm, rfl⟩ := h
    exact ⟨methods, hm, rfl, describe_of_methodSet? hs hm⟩

/-- What the request `r` remarks on the schema of its value type. -/
def remarks (source : TypeSource) (r : ValueRequest) : List Diagnostic :=
  r.remarks (source.describe r.valueType).schema

/-- What is owed for `t`: what its description says, and what its requests remark. -/
def owed (source : TypeSource) (t : TypeName) : List Diagnostic :=
  (source.describe t).diagnostics ++ (source.describe t).requests.flatMap source.remarks

end TypeSource

namespace SchemaStore

variable {source : TypeSource} {store : SchemaStore} {queue : List ValueRequest}

/-! ## The balance -/

/-- **The balance of `store` and `queue`**: what is collected and what the queue will still remark
is what is `owed` for the types with a schema. -/
def Balanced (source : TypeSource) (store : SchemaStore) (queue : List ValueRequest) : Prop :=
  (store.diagnostics ++ queue.flatMap source.remarks).Perm (store.schemas.keys.flatMap source.owed)

namespace Balanced

theorem empty : Balanced source ∅ [] := .refl _

/-- `ensure` for a new type adds the same to both sides. -/
theorem ensure (h : Balanced source store queue) (name : TypeName) :
    Balanced source (SchemaStore.ensure source store name).1
      (queue ++ (SchemaStore.ensure source store name).2) := by
  by_cases hk : name ∈ store.schemas.keys
  · rw [ensure_of_mem hk, List.append_nil]
    exact h
  · have hkeys := (OrderedMap.keys_insert_perm (source.describe name).schema hk).flatMap_right
      source.owed
    rw [ensure_of_not_mem hk]
    unfold Balanced at h ⊢
    refine List.Perm.trans ?_ hkeys.symm
    rw [List.flatMap_cons, List.flatMap_append]
    -- The diagnostics of the new type change places with the remarks still to come.
    calc store.diagnostics ++ (source.describe name).diagnostics ++
          (queue.flatMap source.remarks ++ (source.describe name).requests.flatMap source.remarks)
        = store.diagnostics ++ ((source.describe name).diagnostics ++ queue.flatMap source.remarks)
            ++ (source.describe name).requests.flatMap source.remarks := by
          simp only [List.append_assoc]
      _ ~ store.diagnostics ++ (queue.flatMap source.remarks ++ (source.describe name).diagnostics)
            ++ (source.describe name).requests.flatMap source.remarks :=
          (List.perm_append_comm.append_left _).append_right _
      _ = (store.diagnostics ++ queue.flatMap source.remarks) ++ source.owed name := by
          simp only [TypeSource.owed, List.append_assoc]
      _ ~ store.schemas.keys.flatMap source.owed ++ source.owed name := h.append_right _
      _ ~ source.owed name ++ store.schemas.keys.flatMap source.owed := List.perm_append_comm

/-- `answer` moves the remarks of a request from the queue to the store. -/
theorem answer {request : ValueRequest} (h : Balanced source store (request :: queue))
    (hschema : store.schema? request.valueType = some (source.describe request.valueType).schema) :
    Balanced source (store.answer request) queue := by
  have hanswer : (store.answer request).diagnostics =
      store.diagnostics ++ source.remarks request := by
    unfold SchemaStore.answer
    rw [hschema]
    rfl
  unfold Balanced at h ⊢
  rw [schemas_answer, hanswer, List.append_assoc]
  exact h

end Balanced

/-- **After every sequence of calls all that is `owed` is collected**, because nothing is left in
the queue. -/
theorem collected_afterCalls (source : TypeSource) (roots : List TypeName) :
    (afterCalls source roots).diagnostics ~
      (afterCalls source roots).schemas.keys.flatMap source.owed := by
  have h : Described source (afterCalls source roots) ∧
      Balanced source (afterCalls source roots) [] := by
    refine afterCalls_invariant
      (I := fun _ store queue => Described source store ∧ Balanced source store queue)
      ⟨.empty, .empty⟩ (fun _ _ _ _ h => h) (fun _ root _ _ h => ?_)
      (fun _ store request queue h => ?_) roots
    · exact ⟨h.1.ensure root, h.2.ensure root⟩
    · have hdescribed := h.1.ensure request.valueType
      have hschema := hdescribed _ (mem_keys_ensure source store request.valueType)
      exact ⟨hdescribed.answer request, (h.2.ensure request.valueType).answer hschema⟩
  have hbalanced := h.2
  rwa [Balanced, List.flatMap_nil, List.append_nil] at hbalanced

/-- Whatever `source.extraction? t` asks for has its schema in `afterCalls source roots`. -/
theorem schema?_of_mem_requests {roots : List TypeName} {t : TypeName} {e : Extraction}
    {r : ValueRequest} (ht : t ∈ (afterCalls source roots).schemas.keys)
    (he : source.extraction? t = some e) (hr : r ∈ e.requests) :
    (afterCalls source roots).schema? r.valueType =
      some (source.describe r.valueType).schema := by
  obtain ⟨methods, -, -, hdescribe⟩ := TypeSource.exists_of_extraction?_eq_some he
  have hrequest : r ∈ (source.describe t).requests := by rwa [hdescribe]
  have hclosed := (explored_afterCalls source roots).closed t ht r hrequest
  exact described_afterCalls source roots _ (hclosed.resolve_right List.not_mem_nil)

/-- `source.owed t` is what the extraction of `t` says and what its requests remark. -/
theorem owed_eq {roots : List TypeName} {t : TypeName}
    (ht : t ∈ (afterCalls source roots).schemas.keys) :
    source.owed t = (source.extraction? t).toList.flatMap fun e =>
      e.diagnostics ++ e.requests.flatMap fun r =>
        ((afterCalls source roots).schema? r.valueType).elim [] r.remarks := by
  unfold TypeSource.owed
  cases he : source.extraction? t with
  | none =>
    obtain ⟨schema, -, hdescribe⟩ := TypeSource.describe_of_extraction?_eq_none he
    rw [hdescribe]
    rfl
  | some e =>
    obtain ⟨methods, -, -, hdescribe⟩ := TypeSource.exists_of_extraction?_eq_some he
    rw [hdescribe, Option.toList_some, List.flatMap_singleton]
    refine congrArg (e.diagnostics ++ ·) (List.flatMap_congr fun r hr => ?_)
    rw [schema?_of_mem_requests ht he hr]
    rfl

end SchemaStore

/-! ## Managed structs -/

/-- The error for the property `p` of `owner`, whose value type is neither a scalar nor declared. -/
def Diagnostic.unsupported (owner : TypeName) (p : BoundProperty) : Diagnostic where
  severity := .error
  kind := .unsupportedPropertyType
  subject := owner
  message := "type " ++ p.valueType ++ " cannot be used for property '" ++ p.name ++
    "'; mark the getter unmanaged or declare the type"

/-- What there is to be said of the value types of the properties of `s`. -/
def TypeSource.unsupported (source : TypeSource) (s : StructSchema) : List Diagnostic :=
  (s.properties.filter fun p => !p.isOpaque && !source.isKnown p.valueType).map
    (.unsupported s.typeName)

/-- What aspects report of `t` under the rule for value types. -/
def TypeSource.aspectRemarks (source : TypeSource) (t : TypeName) : List Diagnostic :=
  (source.extraction? t).toList.flatMap fun e =>
    (source.extractor.aspects e.schema.typeName e.properties).2.diagnostics.filter
      (·.kind = .unsupportedPropertyType)

namespace TypeSource

variable {source : TypeSource} {types : TypeSettings}

/-- The `aspectRemarks` are read off the properties of an extraction. -/
theorem of_mem_aspectRemarks {t : TypeName} {d : Diagnostic} (hd : d ∈ source.aspectRemarks t) :
    d.kind = .unsupportedPropertyType ∧
      ∃ e : Extraction,
        d ∈ (source.extractor.aspects e.schema.typeName e.properties).2.diagnostics := by
  obtain ⟨e, -, hd⟩ := List.mem_flatMap.1 hd
  obtain ⟨hmem, hkind⟩ := List.mem_filter.1 hd
  exact ⟨of_decide_eq_true hkind, e, hmem⟩

/-- **Nothing but the lack of a declaration is remarked on a value type**, under
`Policy.managed`. -/
theorem validateProperty_managed (source : TypeSource) (types : TypeSettings) (owner : TypeName)
    (p : BoundProperty) :
    (Policy.managed types).validateProperty owner p (source.describe p.valueType).schema =
      if source.isKnown p.valueType then [] else [.unsupported owner p] := by
  have hknown : source.isKnown p.valueType =
      (source.extractor.types.isScalar p.valueType ||
        (source.catalog.methodSet? p.valueType).isSome) := by
    rw [Catalog.methodSet?_isSome]
    rfl
  cases hs : source.extractor.types.isScalar p.valueType with
  | true =>
    rw [describe_of_isScalar hs, hknown, hs]
    rfl
  | false =>
    cases hm : source.catalog.methodSet? p.valueType with
    | none =>
      rw [describe_of_undeclared hs hm, hknown, hs, hm]
      rfl
    | some methods =>
      rw [describe_of_methodSet? hs hm, hknown, hs, hm]
      rfl

/-- Selecting twice, by `keep` and by making nothing of what `skip` holds of. -/
theorem flatMap_filter_ite {α β : Type} (keep skip : α → Bool) (f : α → β) (l : List α) :
    (l.filter keep).flatMap (fun a => if skip a then [] else [f a]) =
      (l.filter fun a => keep a && !skip a).map f := by
  induction l with
  | nil => rfl
  | cons a l ih =>
    cases hkeep : keep a with
    | false => simp [hkeep, ih]
    | true =>
      cases hskip : skip a with
      | false => simp [hkeep, hskip, ih]
      | true => simp [hkeep, hskip, ih]

variable (hpolicy : source.extractor.policy = .managed types)

include hpolicy

/-- The requests of a managed struct `s` remark on the properties without a known value type:
`source.unsupported s`. -/
theorem remarks_of_managed {methods : MethodSet} {s : StructSchema}
    (hs : (source.extractor.extract methods).schema.struct? = some s) :
    (source.extractor.extract methods).requests.flatMap source.remarks = source.unsupported s := by
  obtain rfl := Option.some.inj hs
  have hremarks : ∀ p, source.remarks (.ofProperty (.managed types) methods.target.name p) =
      if source.isKnown p.valueType then [] else [.unsupported methods.target.name p] :=
    validateProperty_managed source types methods.target.name
  rw [Extractor.requests_extract, List.flatMap_map, hpolicy]
  simp only [hremarks]
  exact flatMap_filter_ite _ _ _ _

/-- **Of what is `owed` for `t`, the errors about value types** are those of its properties, beside
its `aspectRemarks`. -/
theorem filter_owed_of_managed (t : TypeName) :
    (source.owed t).filter (·.kind = .unsupportedPropertyType) =
      source.aspectRemarks t ++
        (source.describe t).schema.struct?.toList.flatMap source.unsupported := by
  cases he : source.extraction? t with
  | none =>
    obtain ⟨schema, hstruct, hdescribe⟩ := describe_of_extraction?_eq_none he
    simp [owed, aspectRemarks, he, hdescribe, hstruct]
  | some e =>
    obtain ⟨methods, -, rfl, hdescribe⟩ := exists_of_extraction?_eq_some he
    obtain ⟨s, hs⟩ : ∃ s, (source.extractor.extract methods).schema.struct? = some s := ⟨_, rfl⟩
    -- What the requests remark is of this kind throughout.
    have hself : (source.unsupported s).filter (·.kind = .unsupportedPropertyType) =
        source.unsupported s := by
      refine List.filter_eq_self.2 fun d hd => ?_
      obtain ⟨p, -, rfl⟩ := List.mem_map.1 hd
      rfl
    rw [owed, hdescribe, List.filter_append, remarks_of_managed hpolicy hs, hself,
      Extractor.filter_unsupported_of_managed hpolicy, hs, aspectRemarks, he, Option.toList_some,
      Option.toList_some, List.flatMap_singleton, List.flatMap_singleton]
    rfl

end TypeSource

/-- `AspectReader.ofRules` gives no other warnings than those about getters. -/
theorem AspectReader.kind_of_mem_ofRules {rules : List AspectRule} {subject : TypeName}
    {properties : List BoundProperty} {d : Diagnostic}
    (hd : d ∈ (AspectReader.ofRules rules subject properties).2.diagnostics) :
    d.kind = .invalidGetter := by
  obtain ⟨j, hj, hmem⟩ := List.mem_flatMap.1 hd
  obtain ⟨rule, -, rfl⟩ := List.mem_map.1 hj
  cases hw : rule.warning with
  | none =>
    simp only [hw] at hmem
    exact absurd hmem List.not_mem_nil
  | some message =>
    simp only [hw] at hmem
    rw [List.mem_singleton.1 hmem]

namespace SchemaStore

/-- The struct schemas of `store`. -/
def structs (store : SchemaStore) : List StructSchema :=
  store.schemas.values.filterMap ModelSchema.struct?

/-- The `structs` of a store are those of its types. -/
theorem Described.flatMap_structs {source : TypeSource} {store : SchemaStore}
    (h : Described source store) (f : StructSchema → List Diagnostic) :
    store.structs.flatMap f =
      store.schemas.keys.flatMap fun t => (source.describe t).schema.struct?.toList.flatMap f := by
  have hvalues : store.schemas.values =
      store.schemas.keys.map fun t => (source.describe t).schema :=
    OrderedMap.values_eq_map_keys h
  rw [structs, hvalues, List.filterMap_map, List.filterMap_eq_flatMap_toList, List.flatMap_assoc]
  rfl

/-- **The errors about value types** in `afterCalls source roots` are those of its `structs`, beside
the `aspectRemarks`. -/
theorem unsupported_afterCalls {source : TypeSource} {types : TypeSettings}
    (hpolicy : source.extractor.policy = .managed types) (roots : List TypeName) :
    (afterCalls source roots).diagnostics.filter (·.kind = .unsupportedPropertyType) ~
      (afterCalls source roots).structs.flatMap source.unsupported ++
        (afterCalls source roots).schemas.keys.flatMap source.aspectRemarks := by
  have howed := fun t (_ : t ∈ (afterCalls source roots).schemas.keys) =>
    TypeSource.filter_owed_of_managed hpolicy t
  have hfilter := (collected_afterCalls source roots).filter (·.kind = .unsupportedPropertyType)
  rw [List.filter_flatMap, List.flatMap_congr howed] at hfilter
  rw [(described_afterCalls source roots).flatMap_structs]
  -- Type by type the aspects come first; over all types they are put at the end.
  exact (hfilter.trans (List.flatMap_append_perm _ _ _).symm).trans List.perm_append_comm

/-- **The diagnostics of a store after any sequence of calls.** They are, in some order, what the
extraction of each declared type with a schema reports and what each of its requests remarks on the
schema of its value type, which is there. Under `Policy.managed` the errors about value types are
one for each property that is not opaque and whose value type is neither a scalar nor declared
(`TypeSource.unsupported`); another one could only come from an aspect reader, and never from
`AspectReader.ofRules`. -/
theorem diagnostics_afterCalls (source : TypeSource) (roots : List TypeName) :
    let store := afterCalls source roots
    let extractions := store.schemas.keys.filterMap source.extraction?
    store.diagnostics.Perm (extractions.flatMap fun e =>
        e.diagnostics ++ e.requests.flatMap fun r =>
          (store.schema? r.valueType).elim [] r.remarks) ∧
      (∀ e ∈ extractions, ∀ r ∈ e.requests, (store.schema? r.valueType).isSome = true) ∧
      ∀ types, source.extractor.policy = .managed types →
        ∃ others,
          (store.diagnostics.filter (·.kind = .unsupportedPropertyType)).Perm
            (store.structs.flatMap source.unsupported ++ others) ∧
          (∀ d ∈ others, ∃ subject properties,
            d ∈ (source.extractor.aspects subject properties).2.diagnostics) ∧
          ∀ rules, source.extractor.aspects = .ofRules rules → others = [] := by
  intro store extractions
  refine ⟨?_, fun e he r hr => ?_, fun types hpolicy => ?_⟩
  · -- Diagnostics are collected type by type, and what a remark looks at is there.
    have hcollected := collected_afterCalls source roots
    have hextractions : extractions = store.schemas.keys.flatMap fun t =>
        (source.extraction? t).toList := List.filterMap_eq_flatMap_toList _ _
    rw [List.flatMap_congr fun t ht => owed_eq ht] at hcollected
    rw [hextractions, List.flatMap_assoc]
    exact hcollected
  · obtain ⟨t, ht, he⟩ := List.mem_filterMap.1 he
    rw [schema?_of_mem_requests ht he hr]
    rfl
  · refine ⟨_, unsupported_afterCalls hpolicy roots, fun d hd => ?_, fun rules hrules => ?_⟩
    · obtain ⟨t, -, hd⟩ := List.mem_flatMap.1 hd
      obtain ⟨-, e, hmem⟩ := TypeSource.of_mem_aspectRemarks hd
      exact ⟨_, _, hmem⟩
    · -- Rules for aspects raise diagnostics of another kind only.
      refine List.eq_nil_iff_forall_not_mem.2 fun d hd => ?_
      obtain ⟨t, -, hd⟩ := List.mem_flatMap.1 hd
      obtain ⟨hkind, e, hmem⟩ := TypeSource.of_mem_aspectRemarks hd
      rw [hrules] at hmem
      exact absurd (hkind.symm.trans (AspectReader.kind_of_mem_ofRules hmem)) (by decide)

/-- A catalog of one interface `T` whose only property has a type `U` without declaration. -/
def undeclaredValue : TypeSource where
  catalog :=
    { types := ⟨[("T", { name := "T", methods := [{ name := "getX", returns := "U" }] })],
        List.pairwise_singleton _ _⟩
      name_eq := by
        intro name d h
        simp [OrderedMap.get?, OrderedMap.lookup] at h
        obtain ⟨rfl, rfl⟩ := h
        rfl }
  extractor := { policy := .managed {}, hierarchy := {}, types := { scalars := ∅ } }

/-- The property of `undeclaredValue` is reported once. -/
theorem undeclaredValue_reported :
    ((afterCalls undeclaredValue ["T"]).diagnostics.filter
      (·.kind = .unsupportedPropertyType)).length = 1 := by
  obtain ⟨others, hperm, -, hrules⟩ := (diagnostics_afterCalls undeclaredValue ["T"]).2.2 {} rfl
  rw [hrules [] rfl, List.append_nil] at hperm
  rw [hperm.length_eq]
  cbv

end SchemaStore

end AccessorSchema
