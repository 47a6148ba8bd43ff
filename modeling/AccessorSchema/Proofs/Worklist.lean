import Mathlib.Data.List.Induction
import AccessorSchema.Store

/-!
# Calls on a store

A store changes by two steps only: a type is described if it has no schema yet, and a request
comments on the schema it has asked for. Whatever both steps preserve holds after every call.

* **`SchemaStore.mem_keys_ensure_iff`** — describing a type gives a schema to it and to no other;
* **`SchemaStore.settle_invariant`** — what a step from the queue preserves, emptying it preserves;
* **`SchemaStore.extract_eq_ok_iff`** — when a call succeeds, and with which store;
* **`SchemaStore.afterCalls`** — the store after a sequence of calls on a new store.
-/

namespace AccessorSchema

namespace SchemaStore

variable {source : TypeSource} {store : SchemaStore} {name : TypeName}

/-! ## Single steps -/

/-- The keys of `schemas` are exactly the types with a `schema?`. -/
theorem mem_keys_iff_exists_schema :
    name ∈ store.schemas.keys ↔ ∃ schema, store.schema? name = some schema := by
  rw [OrderedMap.mem_keys_iff, Option.isSome_iff_exists]
  rfl

/-- **`ensure` gives a schema to `name` and to no other type.** -/
theorem mem_keys_ensure_iff {t : TypeName} :
    t ∈ (ensure source store name).1.schemas.keys ↔ t = name ∨ t ∈ store.schemas.keys := by
  by_cases h : name ∈ store.schemas.keys
  · rw [ensure_of_mem h]
    constructor
    · exact .inr
    · rintro (rfl | ht)
      · exact h
      · exact ht
  · rw [ensure_of_not_mem h]
    exact OrderedMap.key_mem_insertInto

/-- A type that has a `schema?` keeps it, and `name` without one gets that of `describe`. -/
theorem schema?_ensure {t : TypeName} :
    (ensure source store name).1.schema? t =
      if t = name ∧ name ∉ store.schemas.keys then some (source.describe name).schema
      else store.schema? t := by
  by_cases h : name ∈ store.schemas.keys
  · rw [ensure_of_mem h, if_neg fun ht => ht.2 h]
  · rw [ensure_of_not_mem h, schema?, OrderedMap.get?_insert]
    by_cases ht : t = name
    · rw [if_pos ht, if_pos ⟨ht, h⟩]
    · rw [if_neg ht, if_neg fun hn => ht hn.1]
      rfl

@[simp] theorem schema?_answer (store : SchemaStore) (request : ValueRequest) (t : TypeName) :
    (store.answer request).schema? t = store.schema? t := by
  rw [schema?, schemas_answer, schema?]

/-! ## Emptying the queue -/

@[simp] theorem settle_nil (source : TypeSource) (store : SchemaStore) :
    settle source store [] = store := by
  rw [settle, settleTraced, Traced.value_pure]

/-- `settle` answers the first request of the queue and goes on with those that arise at the end. -/
theorem settle_cons (source : TypeSource) (store : SchemaStore) (request : ValueRequest)
    (queue : List ValueRequest) :
    settle source store (request :: queue) =
      settle source ((ensure source store request.valueType).1.answer request)
        (queue ++ (ensure source store request.valueType).2) := by
  rw [settle, settleTraced]
  rfl

/-- **What a step from the queue preserves, `settle` preserves.** -/
theorem settle_invariant {I : SchemaStore → List ValueRequest → Prop}
    (step : ∀ store request queue, I store (request :: queue) →
      I ((ensure source store request.valueType).1.answer request)
        (queue ++ (ensure source store request.valueType).2))
    {store : SchemaStore} {queue : List ValueRequest} (h : I store queue) :
    I (settle source store queue) [] := by
  induction store, queue using settleTraced.induct source with
  | case1 store =>
    rw [settle_nil]
    exact h
  | case2 store request queue ensured ih =>
    rw [settle_cons]
    exact ih (step store request queue h)

/-! ## Calls -/

/-- A call of `extract` with a root that `isKnown` settles all that its root leads to. -/
theorem extract_of_isKnown {root : TypeName} (h : source.isKnown root = true) :
    extract source store root =
      .ok (settle source (ensure source store root).1 (ensure source store root).2) := by
  unfold extract extractTraced
  rw [if_pos h]
  rfl

/-- A call of `extract` with a root that is neither a scalar nor declared fails before it begins. -/
theorem extract_of_unknown {root : TypeName} (h : source.isKnown root = false) :
    extract source store root = .error (.unknownType root) := by
  unfold extract extractTraced
  rw [h]
  rfl

/-- **A call of `extract` succeeds exactly for a scalar or declared root**, whatever the store
holds. -/
theorem extract_eq_ok_iff {root : TypeName} {s : SchemaStore} :
    extract source store root = .ok s ↔
      source.isKnown root = true ∧
        s = settle source (ensure source store root).1 (ensure source store root).2 := by
  cases h : source.isKnown root with
  | true => simp [extract_of_isKnown h, eq_comm]
  | false => simp [extract_of_unknown h]

/-- `afterCall`: the store after a call; a call that fails leaves the store as it is. -/
def afterCall (source : TypeSource) (store : SchemaStore) (root : TypeName) : SchemaStore :=
  match extract source store root with
  | .ok s => s
  | .error _ => store

/-- `afterCalls`: the store after a sequence of calls, beginning with `∅`. -/
def afterCalls (source : TypeSource) (roots : List TypeName) : SchemaStore :=
  roots.foldl (afterCall source) ∅

/-- What `afterCall` leaves: everything its root leads to is settled, or nothing has changed. -/
theorem afterCall_eq (source : TypeSource) (store : SchemaStore) (root : TypeName) :
    afterCall source store root =
      if source.isKnown root then
        settle source (ensure source store root).1 (ensure source store root).2
      else store := by
  unfold afterCall
  cases h : source.isKnown root with
  | true => simp [extract_of_isKnown h]
  | false => simp [extract_of_unknown h]

/-- `settle` keeps the types that have a schema. -/
theorem keys_subset_settle (source : TypeSource) (store : SchemaStore)
    (queue : List ValueRequest) :
    store.schemas.keys ⊆ (settle source store queue).schemas.keys := by
  refine settle_invariant (I := fun s _ => store.schemas.keys ⊆ s.schemas.keys)
    (fun s request _ h => ?_) (List.Subset.refl _)
  rw [schemas_answer]
  exact List.Subset.trans h (keys_subset_ensure source s request.valueType)

/-- After a call that succeeds the root has a schema: `ensure` gives it one, and `settle` keeps it. -/
theorem exists_schema_of_extract {root : TypeName} {after : SchemaStore}
    (h : extract source store root = .ok after) : ∃ schema, after.schema? root = some schema := by
  obtain ⟨-, rfl⟩ := extract_eq_ok_iff.1 h
  exact mem_keys_iff_exists_schema.1 (keys_subset_settle source _ _ (mem_keys_ensure source store root))

/-- `call source store root` fails before it begins if `root` is neither a scalar nor declared. -/
theorem call_of_unknown (store : SchemaStore) {root : TypeName} (h : source.isKnown root = false) :
    call source store root = (.error (.unknownType root), store) := by
  simp only [call, extract_of_unknown h]

/-- `call source store root` with any other `root` looks its schema up in `afterCall`, and finds it. -/
theorem call_of_known (store : SchemaStore) {root : TypeName} (h : source.isKnown root = true) :
    ∃ schema, call source store root = (.ok schema, afterCall source store root) ∧
      (afterCall source store root).schema? root = some schema := by
  have hextract : extract source store root = .ok (afterCall source store root) := by
    rw [afterCall_eq, if_pos h, extract_of_isKnown h]
  obtain ⟨schema, hschema⟩ := exists_schema_of_extract hextract
  refine ⟨schema, ?_, hschema⟩
  simp only [call, hextract, hschema]

/-- One more call at the end of `afterCalls`. -/
theorem afterCalls_concat (source : TypeSource) (roots : List TypeName) (root : TypeName) :
    afterCalls source (roots ++ [root]) = afterCall source (afterCalls source roots) root := by
  rw [afterCalls, List.foldl_append]
  rfl

/-- **What every step from the queue preserves, calls preserve**: `I` is to hold of the new store,
to survive a call that fails, and to be set up by the root of one that succeeds. -/
theorem afterCalls_invariant {I : List TypeName → SchemaStore → List ValueRequest → Prop}
    (new : I [] ∅ [])
    (failed : ∀ roots root store, source.isKnown root = false → I roots store [] →
      I (roots ++ [root]) store [])
    (called : ∀ roots root store, source.isKnown root = true → I roots store [] →
      I (roots ++ [root]) (ensure source store root).1 (ensure source store root).2)
    (step : ∀ roots store request queue, I roots store (request :: queue) →
      I roots ((ensure source store request.valueType).1.answer request)
        (queue ++ (ensure source store request.valueType).2))
    (roots : List TypeName) : I roots (afterCalls source roots) [] := by
  -- Calls come one after another, so the induction goes to the last one.
  induction roots using List.reverseRecOn with
  | nil => exact new
  | append_singleton roots root ih =>
    rw [afterCalls_concat, afterCall_eq]
    by_cases h : source.isKnown root = true
    · rw [if_pos h]
      exact settle_invariant (step (roots ++ [root])) (called roots root _ h ih)
    · rw [if_neg h]
      exact failed roots root _ (by simpa using h) ih

end SchemaStore

end AccessorSchema
