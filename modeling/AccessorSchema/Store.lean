import AccessorSchema.Catalog
import AccessorSchema.Collection.Unseen
import AccessorSchema.Extraction

/-!
# Extracting a type with all it refers to

A **`SchemaStore`** collects the schemas of a root type and of the value types of properties, in
turn, each type once. The requests that the extraction of a type leaves behind wait in a queue;
taking one out makes sure of the value type's schema and then lets the request comment on it.

* **`TypeSource.describe`** — what is found out about one type;
* **`SchemaStore.ensure`** — describes a type that has no schema yet;
* **`SchemaStore.settle`** — takes requests from the queue until none is left;
* **`SchemaStore.extract`** — extracts a root type, which has to be a scalar or declared;
* **`SchemaStore.call`** — `extract`, and the schema of the root that it gives back.

Each of the first four is the `value` of a `Traced` program of the same name, whose trace lists the
method sets that the extractor is handed. The queue runs empty because only a declared type that
has no schema yet adds requests (`SchemaStore.settle_decreases`).
-/

namespace AccessorSchema

/-- Where types come from, `catalog`, and how they are extracted, `extractor`. -/
structure TypeSource where
  catalog : Catalog
  extractor : Extractor

/-- What is found out about one type: its `schema`, the `diagnostics` of its extraction, and the
`requests` of its properties. -/
structure TypeDescription where
  schema : ModelSchema
  diagnostics : List Diagnostic := []
  requests : List ValueRequest := []

namespace TypeSource

/-- Whether the type `name` is a scalar or declared in `s.catalog`. -/
def isKnown (s : TypeSource) (name : TypeName) : Bool :=
  s.extractor.types.isScalar name || s.catalog.contains name

/-- **Describes the type `name`**: a scalar is a `.value`, whether declared or not; a declared type
is handed to `s.extractor` with its methods; any other type is `.unknown`. -/
def describeTraced (s : TypeSource) (name : TypeName) : Traced TypeDescription :=
  if s.extractor.types.isScalar name then pure { schema := .value name }
  else
    match s.catalog.methodSet? name with
    | none => pure { schema := .unknown name }
    | some methods => do
      let e ← s.extractor.extractTraced methods
      pure { schema := e.schema, diagnostics := e.diagnostics, requests := e.requests }

/-- What `describeTraced` finds out, without its trace. -/
def describe (s : TypeSource) (name : TypeName) : TypeDescription := (s.describeTraced name).value

variable {s : TypeSource} {name : TypeName}

/-- `s.describeTraced name` for a scalar: nothing but the schema, and no use of the extractor. -/
theorem describeTraced_of_isScalar (h : s.extractor.types.isScalar name = true) :
    s.describeTraced name = pure { schema := .value name } := if_pos h

/-- `s.describeTraced name` for a declared type: its extraction, of which `methods` is the trace. -/
theorem describeTraced_of_methodSet? {methods : MethodSet}
    (h : s.extractor.types.isScalar name = false)
    (hm : s.catalog.methodSet? name = some methods) :
    s.describeTraced name =
      { value :=
          { schema := (s.extractor.extract methods).schema
            diagnostics := (s.extractor.extract methods).diagnostics
            requests := (s.extractor.extract methods).requests }
        extracted := [methods] } := by
  unfold describeTraced
  rw [h, hm]
  rfl

/-- `s.describeTraced name` without declaration: nothing but the schema, and no use of the
extractor. -/
theorem describeTraced_of_undeclared (h : s.extractor.types.isScalar name = false)
    (hm : s.catalog.methodSet? name = none) :
    s.describeTraced name = pure { schema := .unknown name } := by
  unfold describeTraced
  rw [h, hm]
  rfl

/-- `s.describe name` for a scalar: nothing but the schema. -/
theorem describe_of_isScalar (h : s.extractor.types.isScalar name = true) :
    s.describe name = { schema := .value name } :=
  congrArg Traced.value (describeTraced_of_isScalar h)

/-- `s.describe name` for a declared type: its extraction. -/
theorem describe_of_methodSet? {methods : MethodSet}
    (h : s.extractor.types.isScalar name = false)
    (hm : s.catalog.methodSet? name = some methods) :
    s.describe name =
      { schema := (s.extractor.extract methods).schema
        diagnostics := (s.extractor.extract methods).diagnostics
        requests := (s.extractor.extract methods).requests } :=
  congrArg Traced.value (describeTraced_of_methodSet? h hm)

/-- `s.describe name` without declaration: nothing but the schema. -/
theorem describe_of_undeclared (h : s.extractor.types.isScalar name = false)
    (hm : s.catalog.methodSet? name = none) : s.describe name = { schema := .unknown name } :=
  congrArg Traced.value (describeTraced_of_undeclared h hm)

/-- `(s.describe name).requests = []` unless `name` is declared. -/
theorem requests_describe_eq_nil (h : name ∉ s.catalog.names) :
    (s.describe name).requests = [] := by
  have hn : s.catalog.methodSet? name = none := by
    rw [Catalog.mem_names_iff, ← Catalog.methodSet?_isSome] at h
    exact Option.not_isSome_iff_eq_none.1 h
  cases hs : s.extractor.types.isScalar name with
  | true => rw [describe_of_isScalar hs]
  | false => rw [describe_of_undeclared hs hn]

end TypeSource

/-- The `schemas` extracted so far, by type, and the `diagnostics` collected on the way. -/
structure SchemaStore where
  schemas : OrderedMap TypeName ModelSchema := ∅
  diagnostics : List Diagnostic := []

namespace SchemaStore

instance : EmptyCollection SchemaStore := ⟨{}⟩

/-- The schema that `store` has for the type `name`. -/
def schema? (store : SchemaStore) (name : TypeName) : Option ModelSchema := store.schemas.get? name

/-- The schema that `store` has for the value type of `property`, a property of `owner`. -/
def propertySchema? (store : SchemaStore) (owner : TypeName) (property : String) :
    Option ModelSchema := do
  let p ← (← store.schema? owner).property? property
  store.schema? p.valueType

/-! ## Steps -/

/-- **Gives `name` the schema of its description unless `store` has one for it**; the requests of
the description come with the new store. -/
def ensureTraced (source : TypeSource) (store : SchemaStore) (name : TypeName) :
    Traced (SchemaStore × List ValueRequest) :=
  if name ∈ store.schemas.keys then pure (store, [])
  else do
    let d ← source.describeTraced name
    pure ({ schemas := store.schemas.insert name d.schema
            diagnostics := store.diagnostics ++ d.diagnostics }, d.requests)

/-- What `ensureTraced` comes to, without its trace. -/
def ensure (source : TypeSource) (store : SchemaStore) (name : TypeName) :
    SchemaStore × List ValueRequest := (ensureTraced source store name).value

/-- Lets `request` comment on the schema of its value type, if `store` has one. -/
def answer (store : SchemaStore) (request : ValueRequest) : SchemaStore :=
  match store.schema? request.valueType with
  | none => store
  | some schema =>
    { store with diagnostics := store.diagnostics ++ request.remarks schema }

/-- `answer` leaves the `schemas` as they are. -/
@[simp] theorem schemas_answer (store : SchemaStore) (request : ValueRequest) :
    (store.answer request).schemas = store.schemas := by
  unfold answer
  split <;> rfl

variable {source : TypeSource} {store : SchemaStore} {name : TypeName}

/-- `ensureTraced` does nothing for a type that has a schema. -/
theorem ensureTraced_of_mem (h : name ∈ store.schemas.keys) :
    ensureTraced source store name = pure (store, []) := if_pos h

/-- `ensureTraced` uses the extractor for a type without schema as `describeTraced` does. -/
theorem extracted_ensureTraced_of_not_mem (h : name ∉ store.schemas.keys) :
    (ensureTraced source store name).extracted = (source.describeTraced name).extracted := by
  unfold ensureTraced
  rw [if_neg h, Traced.extracted_bind, Traced.extracted_pure, List.append_nil]

/-- `ensure source store name = (store, [])` for a type that has a schema. -/
theorem ensure_of_mem (h : name ∈ store.schemas.keys) : ensure source store name = (store, []) :=
  congrArg Traced.value (ensureTraced_of_mem h)

/-- `ensure source store name` inserts `source.describe name` for a type without schema. -/
theorem ensure_of_not_mem (h : name ∉ store.schemas.keys) :
    ensure source store name =
      ({ schemas := store.schemas.insert name (source.describe name).schema
         diagnostics := store.diagnostics ++ (source.describe name).diagnostics },
        (source.describe name).requests) := by
  unfold ensure ensureTraced
  rw [if_neg h]
  rfl

/-- `ensure` keeps the types that have a schema. -/
theorem keys_subset_ensure (source : TypeSource) (store : SchemaStore) (name : TypeName) :
    store.schemas.keys ⊆ (ensure source store name).1.schemas.keys := by
  intro k hk
  by_cases h : name ∈ store.schemas.keys
  · rw [ensure_of_mem h]
    exact hk
  · rw [ensure_of_not_mem h]
    exact OrderedMap.key_mem_insertInto.2 (.inr hk)

/-- After `ensure source store name` the type `name` has a schema. -/
theorem mem_keys_ensure (source : TypeSource) (store : SchemaStore) (name : TypeName) :
    name ∈ (ensure source store name).1.schemas.keys := by
  by_cases h : name ∈ store.schemas.keys
  · rw [ensure_of_mem h]
    exact h
  · rw [ensure_of_not_mem h]
    exact OrderedMap.key_mem_insertInto.2 (.inl rfl)

/-! ## The queue -/

/-- A step from the queue lowers `unseen`, the number of declared types without schema, or shortens
the queue. -/
theorem settle_decreases (source : TypeSource) (store : SchemaStore) (request : ValueRequest)
    (queue : List ValueRequest) :
    Prod.Lex (· < ·) (· < ·)
      (unseen source.catalog.names (ensure source store request.valueType).1.schemas.keys,
        (queue ++ (ensure source store request.valueType).2).length)
      (unseen source.catalog.names store.schemas.keys, (request :: queue).length) := by
  have hsub := keys_subset_ensure source store request.valueType
  by_cases hk : request.valueType ∈ store.schemas.keys
  · rw [ensure_of_mem hk]
    exact Prod.Lex.right _ (by simp)
  · by_cases hd : request.valueType ∈ source.catalog.names
    · exact Prod.Lex.left _ _ (unseen_lt hsub hd hk (mem_keys_ensure ..))
    · -- A type without declaration asks for nothing, and so the queue gets shorter.
      have hnil : (ensure source store request.valueType).2 = [] := by
        rw [ensure_of_not_mem hk]
        exact TypeSource.requests_describe_eq_nil hd
      rw [hnil]
      rcases Nat.lt_or_eq_of_le (unseen_le hsub) with h | h
      · exact Prod.Lex.left _ _ h
      · rw [h]
        exact Prod.Lex.right _ (by simp)

/-- **Takes requests from the queue until none is left**: `ensureTraced` for the value type of the
first one, whose new requests join the queue at its end, then `answer`. -/
def settleTraced (source : TypeSource) (store : SchemaStore) :
    List ValueRequest → Traced SchemaStore
  | [] => pure store
  | request :: queue =>
    -- `ensured.value` in place of a bind, since the recursion decreases for this store only.
    let ensured := ensureTraced source store request.valueType
    -- The request comments only after the value type's own diagnostics.
    ensured *> settleTraced source (ensured.value.1.answer request) (queue ++ ensured.value.2)
termination_by queue => (unseen source.catalog.names store.schemas.keys, queue.length)
decreasing_by
  rw [schemas_answer]
  exact settle_decreases source store request queue

/-- The store that `settleTraced` comes to, without its trace. -/
def settle (source : TypeSource) (store : SchemaStore) (queue : List ValueRequest) : SchemaStore :=
  (settleTraced source store queue).value

/-! ## Calls -/

/-- **Extracts `root` and every type reachable from it** by properties that are not opaque; a root
that is not `isKnown` is refused. -/
def extractTraced (source : TypeSource) (store : SchemaStore) (root : TypeName) :
    Traced (Except Failure SchemaStore) :=
  if source.isKnown root then do
    let ensured ← ensureTraced source store root
    let settled ← settleTraced source ensured.1 ensured.2
    pure (.ok settled)
  else pure (.error (.unknownType root))

/-- What `extractTraced` comes to, without its trace. -/
def extract (source : TypeSource) (store : SchemaStore) (root : TypeName) :
    Except Failure SchemaStore := (extractTraced source store root).value

/-- **A call with what it gives back**: the schema of `root`, which is looked up when `extract` has
come to its end, and the store that the call leaves. -/
def call (source : TypeSource) (store : SchemaStore) (root : TypeName) :
    Except Failure ModelSchema × SchemaStore :=
  match extract source store root with
  | .error failure => (.error failure, store)
  | .ok after =>
    match after.schema? root with
    | none => (.error (.unknownType root), after)
    | some schema => (.ok schema, after)

end SchemaStore

end AccessorSchema
