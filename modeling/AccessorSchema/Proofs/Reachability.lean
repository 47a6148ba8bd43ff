import AccessorSchema.Proofs.Worklist

/-!
# The store holds the types that can be reached

Extraction starts from a root and looks into the value types of properties that are not opaque.
**`TypeSource.Reaches`** says which types that leads to, without a queue and without a store, and
**`TypeSource.HasSchema`** which schema a type has.

* **`SchemaStore.Described`** — the schema under a type is that of its description;
* **`SchemaStore.Explored`** — what holds of store and queue at every step: what has a schema or is
  asked for can be reached, and what a described type asks for has a schema or is in the queue;
* **`SchemaStore.mem_keys_afterCalls_iff`** — with the queue empty, the types with a schema are
  exactly those that can be reached;
* **`SchemaStore.schemas_afterCalls`** — the schemas of a store after any sequence of calls.
-/

namespace AccessorSchema

namespace Extractor

/-- The `requests` of `extract` are those of the properties that are not opaque. -/
theorem requests_extract (x : Extractor) (m : MethodSet) :
    (x.extract m).requests =
      ((x.extract m).properties.filter (!·.isOpaque)).map
        (ValueRequest.ofProperty x.policy m.target.name) := rfl

/-- Each of the `requests` is that of a property that is not opaque. -/
theorem mem_requests_extract_iff {x : Extractor} {m : MethodSet} {r : ValueRequest} :
    r ∈ (x.extract m).requests ↔ ∃ p ∈ (x.extract m).properties,
      p.isOpaque = false ∧ r = ValueRequest.ofProperty x.policy m.target.name p := by
  simp only [requests_extract, List.mem_map, List.mem_filter, Bool.not_eq_true', and_assoc]
  constructor
  · rintro ⟨p, hp, hopaque, rfl⟩
    exact ⟨p, hp, hopaque, rfl⟩
  · rintro ⟨p, hp, hopaque, rfl⟩
    exact ⟨p, hp, hopaque, rfl⟩

end Extractor

namespace TypeSource

/-- **`Reaches source root t`: the types a `root` leads to**, which are `root` itself, and with a
declared type that is no scalar the value types of its properties that are not opaque. -/
inductive Reaches (source : TypeSource) (root : TypeName) : TypeName → Prop
  /-- The `root` leads to itself. -/
  | root : Reaches source root root
  /-- A type leads to the `valueType` of a property. -/
  | property {t : TypeName} {methods : MethodSet} {p : BoundProperty}
      (reached : Reaches source root t)
      (struct : source.extractor.types.isScalar t = false)
      (declared : source.catalog.methodSet? t = some methods)
      (bound : p ∈ (source.extractor.extract methods).properties)
      (transparent : p.isOpaque = false) : Reaches source root p.valueType

/-- **`HasSchema source t schema`: the schema of a type.** Scalars are values, other declared types
are extracted, and any other type is unknown. -/
inductive HasSchema (source : TypeSource) (t : TypeName) : ModelSchema → Prop
  /-- A scalar has a schema `value`, whether declared or not. -/
  | value (scalar : source.extractor.types.isScalar t = true) : HasSchema source t (.value t)
  /-- The schema of a declared type is that of `extract` for its methods. -/
  | struct {methods : MethodSet} (struct : source.extractor.types.isScalar t = false)
      (declared : source.catalog.methodSet? t = some methods) :
      HasSchema source t (source.extractor.extract methods).schema
  /-- A type without declaration has a schema `unknown`. -/
  | unknown (struct : source.extractor.types.isScalar t = false)
      (undeclared : source.catalog.methodSet? t = none) : HasSchema source t (.unknown t)

variable {source : TypeSource} {t : TypeName}

/-! ## Descriptions -/

/-- The schema that a type has by `HasSchema` is that of `describe`. -/
theorem hasSchema_iff {schema : ModelSchema} :
    source.HasSchema t schema ↔ schema = (source.describe t).schema := by
  constructor
  · intro h
    cases h with
    | value scalar => rw [describe_of_isScalar scalar]
    | struct struct declared => rw [describe_of_methodSet? struct declared]
    | unknown struct undeclared => rw [describe_of_undeclared struct undeclared]
  · rintro rfl
    cases hs : source.extractor.types.isScalar t with
    | true =>
      rw [describe_of_isScalar hs]
      exact .value hs
    | false =>
      cases hm : source.catalog.methodSet? t with
      | none =>
        rw [describe_of_undeclared hs hm]
        exact .unknown hs hm
      | some methods =>
        rw [describe_of_methodSet? hs hm]
        exact .struct hs hm

/-- The requests of `describe` for a declared type ask for the value type of a property that is not
opaque. -/
theorem mem_requests_describe {methods : MethodSet} {p : BoundProperty}
    (struct : source.extractor.types.isScalar t = false)
    (declared : source.catalog.methodSet? t = some methods)
    (bound : p ∈ (source.extractor.extract methods).properties) (transparent : p.isOpaque = false) :
    .ofProperty source.extractor.policy methods.target.name p ∈ (source.describe t).requests := by
  rw [describe_of_methodSet? struct declared]
  exact Extractor.mem_requests_extract_iff.2 ⟨p, bound, transparent, rfl⟩

/-- **What `describe` asks for is what the type `Reaches`.** -/
theorem Reaches.request {root : TypeName} {r : ValueRequest} (h : source.Reaches root t)
    (hr : r ∈ (source.describe t).requests) : source.Reaches root r.valueType := by
  cases hs : source.extractor.types.isScalar t with
  | true =>
    rw [describe_of_isScalar hs] at hr
    exact absurd hr List.not_mem_nil
  | false =>
    cases hm : source.catalog.methodSet? t with
    | none =>
      rw [describe_of_undeclared hs hm] at hr
      exact absurd hr List.not_mem_nil
    | some methods =>
      rw [describe_of_methodSet? hs hm] at hr
      obtain ⟨p, hp, hopaque, rfl⟩ := Extractor.mem_requests_extract_iff.1 hr
      exact .property h hs hm hp hopaque

/-- `ReachedFrom source roots t`: one of the `roots` that is a scalar or declared leads to `t`. -/
def ReachedFrom (source : TypeSource) (roots : List TypeName) (t : TypeName) : Prop :=
  ∃ root ∈ roots, source.isKnown root = true ∧ source.Reaches root t

/-- More `roots` lead to more types. -/
theorem ReachedFrom.mono {roots roots' : List TypeName} (hsub : roots ⊆ roots')
    (h : source.ReachedFrom roots t) : source.ReachedFrom roots' t := by
  obtain ⟨root, hroot, hknown, hreach⟩ := h
  exact ⟨root, hsub hroot, hknown, hreach⟩

end TypeSource

namespace SchemaStore

/-! ## The invariant of store and queue -/

/-- **`Described source store`: each type with a schema has that of `describe`.** -/
def Described (source : TypeSource) (store : SchemaStore) : Prop :=
  ∀ t ∈ store.schemas.keys, store.schema? t = some (source.describe t).schema

namespace Described

variable {source : TypeSource} {store : SchemaStore}

theorem empty : Described source ∅ := fun _ ht => absurd ht List.not_mem_nil

/-- A store that is `Described` stays so when `ensure` describes one more type. -/
theorem ensure (h : Described source store) (name : TypeName) :
    Described source (SchemaStore.ensure source store name).1 := by
  by_cases hk : name ∈ store.schemas.keys
  · rw [ensure_of_mem hk]
    exact h
  · intro t ht
    rw [schema?_ensure]
    rcases mem_keys_ensure_iff.1 ht with rfl | ht
    · rw [if_pos ⟨rfl, hk⟩]
    · have hne : t ≠ name := fun heq => hk (heq ▸ ht)
      rw [if_neg fun hn => hne hn.1, h t ht]

/-- Remarks by `answer` leave the schemas as they are. -/
theorem answer (h : Described source store) (request : ValueRequest) :
    Described source (store.answer request) := by
  intro t ht
  rw [schemas_answer] at ht
  rw [schema?_answer, h t ht]

end Described

/-- The store `afterCalls` is `Described`, for any sequence of calls. -/
theorem described_afterCalls (source : TypeSource) (roots : List TypeName) :
    Described source (afterCalls source roots) :=
  afterCalls_invariant (I := fun _ store _ => Described source store) .empty
    (fun _ _ _ _ h => h) (fun _ root _ _ h => h.ensure root)
    (fun _ _ request _ h => (h.ensure request.valueType).answer request) roots

/-- **`Explored source roots store queue`: what holds of `store` and `queue` at every step.** -/
structure Explored (source : TypeSource) (roots : List TypeName) (store : SchemaStore)
    (queue : List ValueRequest) : Prop where
  /-- A type with a schema is `ReachedFrom` the roots. -/
  reached : ∀ t ∈ store.schemas.keys, source.ReachedFrom roots t
  /-- What is in the `queue` is `ReachedFrom` the roots. -/
  queued : ∀ r ∈ queue, source.ReachedFrom roots r.valueType
  /-- What a type with a schema asks for has a schema, or is still in the `queue`. -/
  closed : ∀ t ∈ store.schemas.keys, ∀ r ∈ (source.describe t).requests,
    r.valueType ∈ store.schemas.keys ∨ r ∈ queue

namespace Explored

variable {source : TypeSource} {roots : List TypeName} {store : SchemaStore}
  {queue : List ValueRequest}

/-- The new store `∅` is `Explored`. -/
theorem empty : Explored source roots ∅ [] where
  reached := fun _ ht => absurd ht List.not_mem_nil
  queued := fun _ hr => absurd hr List.not_mem_nil
  closed := fun _ ht => absurd ht List.not_mem_nil

/-- What is `Explored` from some roots is so from more. -/
theorem mono {roots' : List TypeName} (hsub : roots ⊆ roots')
    (h : Explored source roots store queue) : Explored source roots' store queue where
  reached := fun t ht => (h.reached t ht).mono hsub
  queued := fun r hr => (h.queued r hr).mono hsub
  closed := h.closed

/-- **A type that is `ReachedFrom` the roots may be described by `ensure`**, its requests joining
the queue. -/
theorem ensure {name : TypeName} (h : Explored source roots store queue)
    (hname : source.ReachedFrom roots name) :
    Explored source roots (ensure source store name).1 (queue ++ (ensure source store name).2) := by
  by_cases hk : name ∈ store.schemas.keys
  · rw [ensure_of_mem hk, List.append_nil]
    exact h
  · have hrequests : (SchemaStore.ensure source store name).2 =
        (source.describe name).requests := by
      rw [ensure_of_not_mem hk]
    refine ⟨fun t ht => ?_, fun r hr => ?_, fun t ht r hr => ?_⟩
    · rcases mem_keys_ensure_iff.1 ht with rfl | ht
      · exact hname
      · exact h.reached t ht
    · rw [hrequests] at hr
      rcases List.mem_append.1 hr with hr | hr
      · exact h.queued r hr
      · obtain ⟨root, hroot, hknown, hreach⟩ := hname
        exact ⟨root, hroot, hknown, hreach.request hr⟩
    · -- What the new type asks for has just been put into the queue.
      rw [hrequests, List.mem_append, mem_keys_ensure_iff]
      rcases mem_keys_ensure_iff.1 ht with rfl | ht
      · exact .inr (.inr hr)
      · rcases h.closed t ht r hr with hmem | hmem
        · exact .inl (.inr hmem)
        · exact .inr (.inl hmem)

/-- A request for a type that has a schema may leave the queue by `answer`. -/
theorem answer {request : ValueRequest} (h : Explored source roots store (request :: queue))
    (hk : request.valueType ∈ store.schemas.keys) :
    Explored source roots (store.answer request) queue where
  reached := fun t ht => h.reached t (by rwa [schemas_answer] at ht)
  queued := fun r hr => h.queued r (List.mem_cons_of_mem _ hr)
  closed := fun t ht r hr => by
    rw [schemas_answer] at ht ⊢
    rcases h.closed t ht r hr with hmem | hmem
    · exact .inl hmem
    · rcases List.mem_cons.1 hmem with rfl | hmem
      · exact .inl hk
      · exact .inr hmem

/-- **A step from the queue, `ensure` and then `answer`, keeps `Explored`.** -/
theorem step {request : ValueRequest} (h : Explored source roots store (request :: queue)) :
    Explored source roots ((SchemaStore.ensure source store request.valueType).1.answer request)
      (queue ++ (SchemaStore.ensure source store request.valueType).2) :=
  (h.ensure (h.queued request List.mem_cons_self)).answer (mem_keys_ensure source store _)

end Explored

/-- **`Explored` holds after every sequence of calls, with the queue empty.** -/
theorem explored_afterCalls (source : TypeSource) (roots : List TypeName) :
    Explored source roots (afterCalls source roots) [] := by
  refine afterCalls_invariant .empty (fun roots root store _ h => ?_)
    (fun roots root store hknown h => ?_) (fun roots store request queue h => h.step) roots
  · exact h.mono (List.subset_append_left _ _)
  · have hroot : source.ReachedFrom (roots ++ [root]) root :=
      ⟨root, List.mem_append_right _ List.mem_cons_self, hknown, .root⟩
    exact (h.mono (List.subset_append_left _ _)).ensure hroot

/-- Every root that `isKnown`, being a scalar or declared, has a schema after its call. -/
theorem root_mem_keys_afterCalls {source : TypeSource} {roots : List TypeName} {root : TypeName}
    (hroot : root ∈ roots) (hknown : source.isKnown root = true) :
    root ∈ (afterCalls source roots).schemas.keys := by
  -- Roots get a schema by their call and keep it through every step from the queue.
  refine afterCalls_invariant
    (I := fun roots store _ => ∀ root ∈ roots, source.isKnown root = true →
      root ∈ store.schemas.keys) ?_ ?_ ?_ ?_ roots root hroot hknown
  · exact fun root hroot => absurd hroot List.not_mem_nil
  · intro roots root store hunknown h r hr hk
    rcases List.mem_append.1 hr with hr | hr
    · exact h r hr hk
    · rw [List.mem_singleton.1 hr, hunknown] at hk
      exact absurd hk (by decide)
  · intro roots root store _ h r hr hk
    rw [mem_keys_ensure_iff]
    rcases List.mem_append.1 hr with hr | hr
    · exact .inr (h r hr hk)
    · exact .inl (List.mem_singleton.1 hr)
  · intro roots store request queue h r hr hk
    rw [schemas_answer, mem_keys_ensure_iff]
    exact .inr (h r hr hk)

/-- **The types with a schema are exactly those `ReachedFrom` the roots.** -/
theorem mem_keys_afterCalls_iff {source : TypeSource} {roots : List TypeName} {t : TypeName} :
    t ∈ (afterCalls source roots).schemas.keys ↔ source.ReachedFrom roots t := by
  have hexplored := explored_afterCalls source roots
  constructor
  · exact hexplored.reached t
  · rintro ⟨root, hroot, hknown, hreach⟩
    -- Along the way from the root every type has a schema, because nothing is left in the queue.
    induction hreach with
    | root => exact root_mem_keys_afterCalls hroot hknown
    | @property t methods p _ struct declared bound transparent ih =>
      have hr := TypeSource.mem_requests_describe struct declared bound transparent
      exact (hexplored.closed t ih _ hr).resolve_right List.not_mem_nil

/-- **The schemas of a store after any sequence of calls.** A type has a schema in `afterCalls`
exactly if a root whose call has succeeded `Reaches` it, and it is the schema that the type has by
`HasSchema`. -/
theorem schemas_afterCalls (source : TypeSource) (roots : List TypeName) :
    (∀ t, t ∈ (afterCalls source roots).schemas.keys ↔
      ∃ before root, before ++ [root] <+: roots ∧
        (∃ store, extract source (afterCalls source before) root = .ok store) ∧
          source.Reaches root t) ∧
      ∀ t schema, (afterCalls source roots).schema? t = some schema ↔
        t ∈ (afterCalls source roots).schemas.keys ∧ source.HasSchema t schema := by
  constructor
  · intro t
    rw [mem_keys_afterCalls_iff]
    constructor
    · rintro ⟨root, hroot, hknown, hreach⟩
      -- The root's call comes after those before it, and succeeds whatever they have left.
      obtain ⟨before, after, rfl⟩ := List.append_of_mem hroot
      refine ⟨before, root, ⟨after, by simp⟩, ⟨_, extract_eq_ok_iff.2 ⟨hknown, rfl⟩⟩, hreach⟩
    · rintro ⟨before, root, ⟨after, rfl⟩, ⟨store, hcall⟩, hreach⟩
      exact ⟨root, by simp, (extract_eq_ok_iff.1 hcall).1, hreach⟩
  · intro t schema
    have hdescribed := described_afterCalls source roots t
    rw [TypeSource.hasSchema_iff]
    constructor
    · intro h
      have ht : t ∈ (afterCalls source roots).schemas.keys :=
        mem_keys_iff_exists_schema.2 ⟨schema, h⟩
      rw [hdescribed ht] at h
      exact ⟨ht, (Option.some.inj h).symm⟩
    · rintro ⟨ht, rfl⟩
      exact hdescribed ht

end SchemaStore

end AccessorSchema
