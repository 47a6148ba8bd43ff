import Mathlib
import AccessorSchema.Proofs.CollectedDiagnostics
import AccessorSchema.Report

/-!
# The worklist runs empty

A call works through a list of types, of which the first is its root. Describing a type puts the
value types of its properties at the end, so the list grows while it is worked through, and in a
cyclic catalog it comes back to types that it has seen.

* **`TypeSource.extracted_describeTraced`**, **`SchemaStore.extracted_ensureTraced`** — the traces of
  `describeTraced` and `ensureTraced`: a type is handed to the extractor if it has no schema yet;
* **`StoreUse`** — a store in the middle of a call, with the traces of all that was done since the
  store was new;
* **`StoreUse.EndsAfter`** — the loop ends after a number of iterations, with the store and the trace
  of `SchemaStore.extractTraced` (`EndsAfter.extract_eq`, `EndsAfter.extracted_eq`);
* **`SchemaStore.outstanding`** — the requests still to come, from declared types without schema:
  an iteration takes one entry off the worklist and moves requests from here to its end;
* **`StoreUse.Accounted`** — `extracted` lists the methods of the types with a schema, each type once;
* **`StoreUse.endsAfter_of_reachable`** — the loop ends after as many iterations as the worklist has
  entries and requests join it, and the extractor is handed no type twice.
-/

namespace AccessorSchema

/-! ## What the extractor is handed -/

namespace TypeSource

/-- The methods that `source.describeTraced t` hands to the extractor: those of a declared type that
is no scalar. -/
def input? (source : TypeSource) (t : TypeName) : Option MethodSet :=
  if source.extractor.types.isScalar t then none else source.catalog.methodSet? t

variable {source : TypeSource} {t : TypeName}

/-- `source.input? t = some m`: `t` is no scalar and declared with the methods `m`. -/
theorem input?_eq_some_iff {m : MethodSet} :
    source.input? t = some m ↔
      source.extractor.types.isScalar t = false ∧ source.catalog.methodSet? t = some m := by
  unfold input?
  cases source.extractor.types.isScalar t with
  | true => simp
  | false => simp

/-- `m.target.name = t` for the methods `m` of `source.input? t`. -/
theorem target_name_of_input? {m : MethodSet} (h : source.input? t = some m) :
    m.target.name = t :=
  Catalog.target_name_of_methodSet? (input?_eq_some_iff.1 h).2

/-- **The trace of `describeTraced`** is `input?`. -/
theorem extracted_describeTraced :
    (source.describeTraced t).extracted = (source.input? t).toList := by
  unfold input?
  cases hs : source.extractor.types.isScalar t with
  | true =>
    rw [describeTraced_of_isScalar hs]
    rfl
  | false =>
    cases hm : source.catalog.methodSet? t with
    | none =>
      rw [describeTraced_of_undeclared hs hm]
      rfl
    | some methods =>
      rw [describeTraced_of_methodSet? hs hm]
      rfl

end TypeSource

namespace SchemaStore

variable {source : TypeSource} {store : SchemaStore} {name : TypeName}

/-- **The trace of `ensureTraced`**: nothing for a type that has a schema, and `input?` for any
other. -/
theorem extracted_ensureTraced :
    (ensureTraced source store name).extracted =
      if name ∈ store.schemas.keys then [] else (source.input? name).toList := by
  by_cases hk : name ∈ store.schemas.keys
  · rw [ensureTraced_of_mem hk, if_pos hk, Traced.extracted_pure]
  · rw [extracted_ensureTraced_of_not_mem hk, if_neg hk, TypeSource.extracted_describeTraced]

/-- The trace of `settleTraced` is empty with the queue. -/
theorem extracted_settleTraced_nil : (settleTraced source store []).extracted = [] := by
  rw [settleTraced, Traced.extracted_pure]

/-- The trace of `settleTraced` begins with that of the first request's value type. -/
theorem extracted_settleTraced_cons (request : ValueRequest) (queue : List ValueRequest) :
    (settleTraced source store (request :: queue)).extracted =
      (ensureTraced source store request.valueType).extracted ++
        (settleTraced source ((ensure source store request.valueType).1.answer request)
          (queue ++ (ensure source store request.valueType).2)).extracted := by
  rw [settleTraced, Traced.extracted_seqRight]
  rfl

/-- The trace of `extractTraced` begins with that of the root. -/
theorem extracted_extractTraced_of_isKnown {root : TypeName} (h : source.isKnown root = true) :
    (extractTraced source store root).extracted =
      (ensureTraced source store root).extracted ++
        (settleTraced source (ensure source store root).1 (ensure source store root).2).extracted := by
  unfold extractTraced
  rw [if_pos h, Traced.extracted_bind, Traced.extracted_bind, Traced.extracted_pure, List.append_nil]
  rfl

/-- The trace of `extractTraced` is empty for a root that is neither a scalar nor declared. -/
theorem extracted_extractTraced_of_unknown {root : TypeName} (h : source.isKnown root = false) :
    (extractTraced source store root).extracted = [] := by
  unfold extractTraced
  rw [h]
  rfl

end SchemaStore

/-! ## The requests still to come -/

namespace SchemaStore

variable {source : TypeSource} {store : SchemaStore}

/-- How many requests are still to come, from the declared types that have no schema in `store`. -/
def outstanding (source : TypeSource) (store : SchemaStore) : Nat :=
  ((source.catalog.names.filter (· ∉ store.schemas.keys)).map fun t =>
    (source.describe t).requests.length).sum

/-- The declared types without schema after `ensure source store name`: `name` is none of them. -/
theorem filter_names_ensure {name : TypeName} :
    source.catalog.names.filter (· ∉ (ensure source store name).1.schemas.keys) =
      (source.catalog.names.filter (· ∉ store.schemas.keys)).erase name := by
  have hnodup : (source.catalog.names.filter (· ∉ store.schemas.keys)).Nodup :=
    source.catalog.types.nodup_keys.filter _
  rw [hnodup.erase_eq_filter, List.filter_filter]
  refine List.filter_congr fun t _ => ?_
  by_cases ht : t = name
  · simp [mem_keys_ensure_iff, ht]
  · simp [mem_keys_ensure_iff, ht]

/-- **The requests that `ensure` gives were `outstanding`.** -/
theorem outstanding_ensure (source : TypeSource) (store : SchemaStore) (name : TypeName) :
    (ensure source store name).2.length + (ensure source store name).1.outstanding source =
      store.outstanding source := by
  by_cases hk : name ∈ store.schemas.keys
  · rw [ensure_of_mem hk, List.length_nil, Nat.zero_add]
  · have hrequests : (ensure source store name).2 = (source.describe name).requests := by
      rw [ensure_of_not_mem hk]
    unfold outstanding
    rw [filter_names_ensure, hrequests]
    by_cases hd : name ∈ source.catalog.names
    · -- The requests of a declared type were counted for it before.
      have hmem : name ∈ source.catalog.names.filter (· ∉ store.schemas.keys) :=
        List.mem_filter.2 ⟨hd, decide_eq_true hk⟩
      exact List.sum_map_erase (fun t => (source.describe t).requests.length) hmem
    · -- A type without declaration was not counted, and it asks for nothing.
      have hmem : name ∉ source.catalog.names.filter (· ∉ store.schemas.keys) :=
        fun hm => hd (List.mem_filter.1 hm).1
      rw [List.erase_of_not_mem hmem, TypeSource.requests_describe_eq_nil hd, List.length_nil,
        Nat.zero_add]

end SchemaStore

/-! ## The loop of a call -/

/-- An entry of the worklist: a `type`, with the `request` that asks for it unless it is the root. -/
structure WorkItem where
  type : TypeName
  request : Option ValueRequest := none

/-- The entry of a `request`, for its value type. -/
def WorkItem.ofRequest (request : ValueRequest) : WorkItem := ⟨request.valueType, some request⟩

/-- A store in use: the `store` itself, the `worklist` that is left in the call that is running, and
the method sets `extracted` since the store was new. -/
structure StoreUse where
  store : SchemaStore := ∅
  worklist : List WorkItem := []
  extracted : List MethodSet := []

namespace StoreUse

/-- `u.call root` begins a call: the worklist holds the `root`. -/
def call (u : StoreUse) (root : TypeName) : StoreUse := { u with worklist := [⟨root, none⟩] }

/-- **One iteration**, for the first entry `item` of the worklist: `SchemaStore.ensureTraced` for its
type, whose requests join the `rest` and whose trace is added to `extracted`, and then
`SchemaStore.answer` for the request that has asked for it. -/
def visit (source : TypeSource) (u : StoreUse) (item : WorkItem) (rest : List WorkItem) :
    StoreUse :=
  let ensured := SchemaStore.ensureTraced source u.store item.type
  { store := item.request.elim ensured.value.1 ensured.value.1.answer
    worklist := rest ++ ensured.value.2.map .ofRequest
    extracted := u.extracted ++ ensured.extracted }

/-- **`Reachable source u`: what the use of a new store can come to**, by calls with roots that are
scalars or declared, one after another, each iteration by iteration. -/
inductive Reachable (source : TypeSource) : StoreUse → Prop
  /-- The store is new, `{}`. -/
  | new : Reachable source {}
  /-- A `call` starts when no other is running. -/
  | call {u : StoreUse} {root : TypeName} (reached : Reachable source u) (idle : u.worklist = [])
      (known : source.isKnown root = true) : Reachable source (u.call root)
  /-- The call that is running takes the first entry of its `worklist`. -/
  | visit {u : StoreUse} {item : WorkItem} {rest : List WorkItem} (reached : Reachable source u)
      (pending : u.worklist = item :: rest) : Reachable source (u.visit source item rest)

/-- **`u.EndsAfter source n v`**: from `u` the loop ends after `n` iterations, in `v`. -/
inductive EndsAfter (source : TypeSource) : Nat → StoreUse → StoreUse → Prop
  /-- The `worklist` is empty, and nothing is left to do. -/
  | idle {u : StoreUse} (idle : u.worklist = []) : EndsAfter source 0 u u
  /-- One iteration, `visit`, and those that follow it. -/
  | next {n : Nat} {u v : StoreUse} {item : WorkItem} {rest : List WorkItem}
      (pending : u.worklist = item :: rest)
      (ends : EndsAfter source n (u.visit source item rest) v) : EndsAfter source (n + 1) u v

variable {source : TypeSource} {u v : StoreUse} {item : WorkItem} {rest : List WorkItem}

/-- The schemas after `visit` are those after `ensure`; answering a request adds none. -/
theorem schemas_visit :
    (u.visit source item rest).store.schemas =
      (SchemaStore.ensure source u.store item.type).1.schemas := by
  cases hr : item.request with
  | none => simp [visit, hr, SchemaStore.ensure]
  | some request => simp [visit, hr, SchemaStore.ensure]

/-! ## It ends -/

/-- The iterations that are left: one for each entry of the worklist and each of the `outstanding`
requests. -/
def remaining (source : TypeSource) (u : StoreUse) : Nat :=
  u.worklist.length + u.store.outstanding source

/-- **An iteration, `visit`, is one of those that were left.** -/
theorem remaining_visit (pending : u.worklist = item :: rest) :
    (u.visit source item rest).remaining source + 1 = u.remaining source := by
  have hensure := SchemaStore.outstanding_ensure source u.store item.type
  have hstore : (u.visit source item rest).store.outstanding source =
      (SchemaStore.ensure source u.store item.type).1.outstanding source := by
    rw [SchemaStore.outstanding, schemas_visit, SchemaStore.outstanding]
  have hlength : (u.visit source item rest).worklist.length =
      rest.length + (SchemaStore.ensure source u.store item.type).2.length := by
    simp [visit, SchemaStore.ensure]
  rw [remaining, remaining, hstore, hlength, pending, List.length_cons]
  omega

/-- **The loop ends**, whatever is left to do, after the `remaining` iterations but for the requests
that have not come. -/
theorem exists_endsAfter (source : TypeSource) (u : StoreUse) :
    ∃ n v, u.EndsAfter source n v ∧ n + v.store.outstanding source = u.remaining source := by
  cases hw : u.worklist with
  | nil =>
    refine ⟨0, u, .idle hw, ?_⟩
    rw [remaining, hw, List.length_nil]
  | cons item rest =>
    -- One iteration fewer is left after this one, so that the others end by induction.
    have hvisit : (u.visit source item rest).remaining source + 1 = u.remaining source :=
      remaining_visit hw
    obtain ⟨n, v, hends, hcount⟩ := exists_endsAfter source (u.visit source item rest)
    exact ⟨n + 1, v, .next hw hends, by omega⟩
termination_by u.remaining source

namespace EndsAfter

variable {n : Nat}

/-- `v.worklist = []` when the loop has ended in `v`. -/
theorem idle_right (h : u.EndsAfter source n v) : v.worklist = [] := by
  induction h with
  | idle idle => exact idle
  | next _ _ ih => exact ih

/-- **The loop does what `settleTraced` does** with the requests of its worklist: it ends with the
same store, and the same method sets have been extracted on the way. -/
theorem settle_eq (h : u.EndsAfter source n v) {queue : List ValueRequest}
    (hqueue : u.worklist = queue.map .ofRequest) :
    v.store = SchemaStore.settle source u.store queue ∧
      v.extracted = u.extracted ++ (SchemaStore.settleTraced source u.store queue).extracted := by
  induction h generalizing queue with
  | idle idle =>
    rw [idle] at hqueue
    rw [List.map_eq_nil_iff.1 hqueue.symm, SchemaStore.settle_nil,
      SchemaStore.extracted_settleTraced_nil, List.append_nil]
    exact ⟨rfl, rfl⟩
  | @next n u v item rest pending ends ih =>
    -- Without a root at its head the worklist holds requests only, and so it does after an iteration.
    rw [pending] at hqueue
    obtain ⟨request, requests, rfl, rfl, rfl⟩ := List.map_eq_cons_iff.1 hqueue.symm
    rw [SchemaStore.settle_cons, SchemaStore.extracted_settleTraced_cons, ← List.append_assoc]
    exact ih (List.map_append ..).symm

variable {root : TypeName}

/-- **The loop of a call is what `extract` does**, to the store. -/
theorem extract_eq (h : (u.call root).EndsAfter source n v) (known : source.isKnown root = true) :
    SchemaStore.extract source u.store root = .ok v.store := by
  rw [SchemaStore.extract_of_isKnown known]
  cases h with
  | idle idle => exact absurd idle (List.cons_ne_nil _ _)
  | @next _ _ _ item rest pending ends =>
    obtain ⟨rfl, rfl⟩ := List.cons.inj pending
    exact congrArg Except.ok (ends.settle_eq rfl).1.symm

/-- **The loop of a call hands to the extractor what `extractTraced` does.** -/
theorem extracted_eq (h : (u.call root).EndsAfter source n v)
    (known : source.isKnown root = true) :
    v.extracted = u.extracted ++ (SchemaStore.extractTraced source u.store root).extracted := by
  rw [SchemaStore.extracted_extractTraced_of_isKnown known, ← List.append_assoc]
  cases h with
  | idle idle => exact absurd idle (List.cons_ne_nil _ _)
  | @next _ _ _ item rest pending ends =>
    obtain ⟨rfl, rfl⟩ := List.cons.inj pending
    exact (ends.settle_eq rfl).2

end EndsAfter

/-! ## No type is handed to the extractor twice -/

/-- The trace of `visit` is that of `ensureTraced`. -/
theorem extracted_visit :
    (u.visit source item rest).extracted =
      u.extracted ++
        if item.type ∈ u.store.schemas.keys then [] else (source.input? item.type).toList := by
  rw [← SchemaStore.extracted_ensureTraced]
  rfl

/-- **`Accounted source u`: what the extractor has been handed**, which is the methods of the types
with a schema that are declared and no scalars, each type once. -/
structure Accounted (source : TypeSource) (u : StoreUse) : Prop where
  /-- No type is in `extracted` twice. -/
  nodup : (u.extracted.map (·.target.name)).Nodup
  /-- The methods of a type are in `extracted` if it has a schema. -/
  mem_iff : ∀ m, m ∈ u.extracted ↔
    m.target.name ∈ u.store.schemas.keys ∧ source.input? m.target.name = some m

namespace Accounted

/-- Nothing is in `extracted` before the first call. -/
theorem new : Accounted source {} where
  nodup := .nil
  mem_iff := fun _ => ⟨fun hm => absurd hm List.not_mem_nil, fun hm => absurd hm.1 List.not_mem_nil⟩

/-- `visit` for a type that has a schema hands nothing to the extractor. -/
theorem visit_of_mem (h : Accounted source u) (hk : item.type ∈ u.store.schemas.keys) :
    Accounted source (u.visit source item rest) := by
  have hextracted : (u.visit source item rest).extracted = u.extracted := by
    rw [extracted_visit, if_pos hk, List.append_nil]
  refine ⟨hextracted ▸ h.nodup, fun m => ?_⟩
  rw [hextracted, h.mem_iff, schemas_visit, SchemaStore.ensure_of_mem hk]

/-- `visit` for a type without schema: a type that is new to the store is new to the extractor. -/
theorem visit_of_not_mem (h : Accounted source u) (hk : item.type ∉ u.store.schemas.keys) :
    Accounted source (u.visit source item rest) := by
  have hextracted : (u.visit source item rest).extracted =
      u.extracted ++ (source.input? item.type).toList := by
    rw [extracted_visit, if_neg hk]
  refine ⟨?_, fun m => ?_⟩
  · rw [hextracted, List.map_append, List.nodup_append]
    refine ⟨h.nodup, ?_, ?_⟩
    · cases source.input? item.type with
      | none => exact .nil
      | some m => exact List.nodup_singleton _
    · -- A type that had been handed to the extractor before would have a schema.
      rintro t ht t' ht' rfl
      obtain ⟨m, hm, rfl⟩ := List.mem_map.1 ht
      obtain ⟨m', hm', heq⟩ := List.mem_map.1 ht'
      rw [TypeSource.target_name_of_input? (Option.mem_toList.1 hm')] at heq
      exact hk (heq ▸ ((h.mem_iff m).1 hm).1)
  · rw [hextracted, List.mem_append, h.mem_iff, schemas_visit, SchemaStore.mem_keys_ensure_iff,
      Option.mem_toList]
    -- The entry's type joins the types with a schema, and its methods the ones handed over.
    constructor
    · rintro (⟨hmem, hm⟩ | hm)
      · exact ⟨.inr hmem, hm⟩
      · have heq : m.target.name = item.type := TypeSource.target_name_of_input? hm
        exact ⟨.inl heq, heq.symm ▸ hm⟩
    · rintro ⟨heq | hmem, hm⟩
      · exact .inr (heq ▸ hm)
      · exact .inl ⟨hmem, hm⟩

/-- **An iteration, `visit`, keeps the account.** -/
theorem visit (h : Accounted source u) : Accounted source (u.visit source item rest) := by
  by_cases hk : item.type ∈ u.store.schemas.keys
  · exact h.visit_of_mem hk
  · exact h.visit_of_not_mem hk

end Accounted

/-- **Whatever a store has come to, `Accounted` holds of it.** -/
theorem Reachable.accounted (h : u.Reachable source) : u.Accounted source := by
  induction h with
  | new => exact .new
  | call _ _ _ ih => exact ⟨ih.nodup, ih.mem_iff⟩
  | visit _ _ ih => exact ih.visit

/-- What is `Reachable` goes on being so until the loop has ended. -/
theorem Reachable.of_endsAfter {n : Nat} (h : u.Reachable source) (hends : u.EndsAfter source n v) :
    v.Reachable source := by
  induction hends with
  | idle => exact h
  | next pending _ ih => exact ih (h.visit pending)

/-- **The store after any sequence of calls, `afterCalls`, is `Reachable`**, with nothing left to
do. -/
theorem exists_reachable_afterCalls (source : TypeSource) (roots : List TypeName) :
    ∃ u : StoreUse, u.Reachable source ∧ u.worklist = [] ∧
      u.store = SchemaStore.afterCalls source roots := by
  induction roots using List.reverseRecOn with
  | nil => exact ⟨{}, .new, rfl, rfl⟩
  | append_singleton roots root ih =>
    obtain ⟨u, hreach, hidle, hstore⟩ := ih
    rw [SchemaStore.afterCalls_concat, ← hstore]
    by_cases hknown : source.isKnown root = true
    · obtain ⟨n, v, hends, -⟩ := exists_endsAfter source (u.call root)
      refine ⟨v, (hreach.call hidle hknown).of_endsAfter hends, hends.idle_right, ?_⟩
      rw [SchemaStore.afterCall, hends.extract_eq hknown]
    · refine ⟨u, hreach, hidle, ?_⟩
      rw [SchemaStore.afterCall_eq, if_neg hknown]

/-- **The loop of a call ends, and the extractor is handed no type twice.** Whatever `u` a new store
can come to, the loop ends after one iteration for each entry of the worklist and each request that
joins it. With a worklist that has run empty, `extract` succeeds for a `root` that is a scalar or
declared, with the store in which its loop ends, and the trace of `extractTraced` is what the loop
has added to `u.extracted`; for any other `root` it fails at once and hands nothing to the extractor.
And `u.extracted`, the traces of all that was done since the store was new, lists the methods of the
types with a schema that are declared and no scalars, of each type once. -/
theorem endsAfter_of_reachable (h : u.Reachable source) :
    (∃ n v, u.EndsAfter source n v ∧
        n + v.store.outstanding source = u.worklist.length + u.store.outstanding source) ∧
      (u.worklist = [] → ∀ root, source.isKnown root = true →
        ∃ n v, (u.call root).EndsAfter source n v ∧
          n + v.store.outstanding source = 1 + u.store.outstanding source ∧
          SchemaStore.extract source u.store root = .ok v.store ∧
          v.extracted = u.extracted ++ (SchemaStore.extractTraced source u.store root).extracted) ∧
      (∀ root, source.isKnown root = false →
        SchemaStore.extract source u.store root = .error (.unknownType root) ∧
          (SchemaStore.extractTraced source u.store root).extracted = []) ∧
      (u.extracted.map (·.target.name)).Nodup ∧
      ∀ m, m ∈ u.extracted ↔ m.target.name ∈ u.store.schemas.keys ∧
        source.extractor.types.isScalar m.target.name = false ∧
        source.catalog.methodSet? m.target.name = some m := by
  refine ⟨exists_endsAfter source u, fun _ root known => ?_, fun root unknown => ?_,
    h.accounted.nodup, fun m => ?_⟩
  · obtain ⟨n, v, hends, hcount⟩ := exists_endsAfter source (u.call root)
    exact ⟨n, v, hends, hcount, hends.extract_eq known, hends.extracted_eq known⟩
  · exact ⟨SchemaStore.extract_of_unknown unknown,
      SchemaStore.extracted_extractTraced_of_unknown unknown⟩
  · rw [h.accounted.mem_iff, TypeSource.input?_eq_some_iff]

/-- A catalog of a type `T` that refers to itself, without scalars. -/
def selfReference : Catalog where
  types := ⟨[("T", { name := "T", methods := [{ name := "getX", returns := "T" }] })],
    List.pairwise_singleton _ _⟩
  name_eq := by
    intro name d h
    simp only [OrderedMap.get?, OrderedMap.lookup] at h
    grind

/-- In `selfReference` the type comes back to the worklist once, and is not handed to the extractor
again. -/
theorem selfReference_endsAfter :
    ∃ (source : TypeSource) (u : StoreUse), u.Reachable source ∧ u.worklist.map (·.type) = ["T"] ∧
      (∃ n v, u.EndsAfter source n v ∧ n + v.store.outstanding source = 1) ∧
      u.extracted.map (·.target.name) = ["T"] ∧ (u.extracted.map (·.target.name)).Nodup := by
  let source := ({ types := { scalars := ∅ } } : Configuration).source selfReference
  let ensured := SchemaStore.ensureTraced source ∅ "T"
  obtain ⟨hknown, hnames, hrequests, htrace⟩ : source.isKnown "T" = true ∧
      source.catalog.names.filter (· ∉ ensured.value.1.schemas.keys) = [] ∧
      ensured.value.2.map (·.valueType) = ["T"] ∧
      ensured.extracted.map (·.target.name) = ["T"] := by
    refine ⟨?_, ?_, ?_, ?_⟩
    all_goals cbv
  -- After the first iteration `T` has a schema and waits once more.
  let u := (({} : StoreUse).call "T").visit source ⟨"T", none⟩ []
  have hreach : u.Reachable source := .visit (.call .new rfl hknown) rfl
  have hworklist : u.worklist.map (·.type) = ["T"] := by
    rw [← hrequests]
    exact List.map_map
  have hleft : u.worklist.length + u.store.outstanding source = 1 := by
    rw [← List.length_map (·.type), hworklist]
    exact congrArg (fun ts => 1 + (ts.map fun t => (source.describe t).requests.length).sum) hnames
  have hextracted : u.extracted.map (·.target.name) = ["T"] := htrace
  obtain ⟨⟨n, v, hends, hcount⟩, -, -, hnodup, -⟩ := endsAfter_of_reachable hreach
  rw [hleft] at hcount
  exact ⟨source, u, hreach, hworklist, ⟨n, v, hends, hcount⟩, hextracted, hnodup⟩

end StoreUse

end AccessorSchema
