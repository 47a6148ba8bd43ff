import AccessorSchema.Proofs.CollectedDiagnostics

/-!
# Stores only grow

A call describes types that have no schema yet and adds what is said of them at the end. It never takes
back what an earlier call has found out, and a call that fails has not begun to work.

* **`SchemaStore.GrowsTo`** — schemas are kept, and diagnostics come after those that are there;
* **`SchemaStore.growsTo_settle`** — emptying the queue lets a store grow, because each step does;
* **`SchemaStore.growsTo_afterCalls`** — so does every further call;
* **`SchemaStore.call_growsTo`** — when a call fails, what it gives back otherwise, and what it leaves.
-/

namespace AccessorSchema

namespace SchemaStore

/-- **`GrowsTo store store'`**: the other store keeps the schemas of `store` and goes on with its
diagnostics. -/
structure GrowsTo (store store' : SchemaStore) : Prop where
  kept : ∀ t schema, store.schema? t = some schema → store'.schema? t = some schema
  diagnostics : store.diagnostics <+: store'.diagnostics

namespace GrowsTo

theorem refl (store : SchemaStore) : store.GrowsTo store :=
  ⟨fun _ _ h => h, List.prefix_refl _⟩

theorem trans {store₁ store₂ store₃ : SchemaStore} (h : store₁.GrowsTo store₂)
    (h' : store₂.GrowsTo store₃) : store₁.GrowsTo store₃ :=
  ⟨fun t schema ht => h'.kept t schema (h.kept t schema ht), h.diagnostics.trans h'.diagnostics⟩

end GrowsTo

/-! ## Steps -/

variable (source : TypeSource) (store : SchemaStore)

/-- **`ensure` lets a store grow**: only a type without schema is given one. -/
theorem growsTo_ensure (name : TypeName) : store.GrowsTo (ensure source store name).1 := by
  by_cases hk : name ∈ store.schemas.keys
  · rw [ensure_of_mem hk]
    exact .refl store
  · refine ⟨fun t schema ht => ?_, ?_⟩
    · have hmem : t ∈ store.schemas.keys := mem_keys_iff_exists_schema.2 ⟨schema, ht⟩
      have hne : t ≠ name := fun heq => hk (heq ▸ hmem)
      rw [schema?_ensure, if_neg fun hn => hne hn.1]
      exact ht
    · rw [ensure_of_not_mem hk]
      exact List.prefix_append _ _

/-- `answer` adds remarks at the end. -/
theorem growsTo_answer (request : ValueRequest) : store.GrowsTo (store.answer request) := by
  refine ⟨fun t schema ht => by rwa [schema?_answer], ?_⟩
  unfold answer
  split
  · exact List.prefix_refl _
  · exact List.prefix_append _ _

/-- **`settle` lets a store grow** as it empties the queue. -/
theorem growsTo_settle (queue : List ValueRequest) :
    store.GrowsTo (settle source store queue) := by
  refine settle_invariant (I := fun s _ => store.GrowsTo s) (fun s request _ h => ?_) (.refl store)
  exact (h.trans (growsTo_ensure source s request.valueType)).trans (growsTo_answer _ request)

/-! ## Calls -/

/-- A call lets a store grow, as `afterCall` tells, whether it succeeds or not. -/
theorem growsTo_afterCall (root : TypeName) : store.GrowsTo (afterCall source store root) := by
  rw [afterCall_eq]
  split
  · exact (growsTo_ensure source store root).trans (growsTo_settle source _ _)
  · exact .refl store

/-- **Further calls of `afterCalls` let a store grow.** -/
theorem growsTo_afterCalls (roots further : List TypeName) :
    (afterCalls source roots).GrowsTo (afterCalls source (roots ++ further)) := by
  induction further using List.reverseRecOn with
  | nil =>
    rw [List.append_nil]
    exact .refl _
  | append_singleton further root ih =>
    rw [← List.append_assoc, afterCalls_concat]
    exact ih.trans (growsTo_afterCall source _ root)

/-- After a call for a type that has a schema, `afterCall` is the store itself. -/
theorem afterCall_of_mem {root : TypeName} (h : root ∈ store.schemas.keys) :
    afterCall source store root = store := by
  rw [afterCall_eq, ensure_of_mem h, settle_nil, ite_self]

/-- **A store only grows, and a call that fails leaves it as it is.** Whatever a store holds, be it
an unknown schema for the root, `call` fails exactly if its root is neither a scalar nor declared;
it says so, and nothing has changed. Otherwise it gives back the schema that the store has for the
root, all schemas are kept, diagnostics are added at the end, as `GrowsTo` has it, and for a root
that had a schema nothing changes. -/
theorem call_growsTo (root : TypeName) :
    let result := (call source store root).1
    let after := (call source store root).2
    ((∃ failure, result = .error failure) ↔
        source.extractor.types.isScalar root = false ∧ source.catalog.contains root = false) ∧
      (∀ failure, result = .error failure → failure = .unknownType root ∧ after = store) ∧
      ∀ schema, result = .ok schema →
        after.schema? root = some schema ∧ store.GrowsTo after ∧
          (root ∈ store.schemas.keys → after = store) := by
  have hunknown : source.isKnown root = false ↔
      source.extractor.types.isScalar root = false ∧ source.catalog.contains root = false := by
    rw [TypeSource.isKnown, Bool.or_eq_false_iff]
  rw [← hunknown]
  intro result after
  -- The root decides alone whether the call fails, whatever the store holds.
  cases hknown : source.isKnown root with
  | false =>
    have hcall := call_of_unknown store hknown
    have hresult : result = .error (.unknownType root) := congrArg Prod.fst hcall
    have hafter : after = store := congrArg Prod.snd hcall
    refine ⟨iff_of_true ⟨_, hresult⟩ rfl, fun failure hfailure => ?_, fun schema hschema => ?_⟩
    · rw [hresult] at hfailure
      exact ⟨(Except.error.inj hfailure).symm, hafter⟩
    · rw [hresult] at hschema
      exact absurd hschema (by simp)
  | true =>
    obtain ⟨schema, hcall, hschema⟩ := call_of_known store hknown
    have hresult : result = .ok schema := congrArg Prod.fst hcall
    have hafter : after = afterCall source store root := congrArg Prod.snd hcall
    have hfails : ∀ failure, result ≠ .error failure := by
      intro failure hfailure
      rw [hresult] at hfailure
      exact absurd hfailure (by simp)
    refine ⟨iff_of_false (not_exists.2 hfails) (by simp),
      fun failure h => absurd h (hfails failure), fun schema' hschema' => ?_⟩
    -- The schema that the late lookup finds is the result.
    obtain rfl : schema = schema' := Except.ok.inj (hresult.symm.trans hschema')
    rw [hafter]
    exact ⟨hschema, growsTo_afterCall source store root, afterCall_of_mem source store⟩

/-- A value type without declaration stands in the store as `unknown`, and yet a call for it
fails. -/
theorem undeclaredValue_refused :
    let store := afterCalls undeclaredValue ["T"]
    store.schema? "U" = some (.unknown "U") ∧ (call undeclaredValue store "U").2 = store ∧
      ∃ failure, (call undeclaredValue store "U").1 = .error failure := by
  have hstored : (afterCalls undeclaredValue ["T"]).schema? "U" = some (.unknown "U") := by cbv
  have hscalar : undeclaredValue.extractor.types.isScalar "U" = false := by decide
  have hdeclared : undeclaredValue.catalog.contains "U" = false := by decide
  intro store
  have hfails : ∃ failure, (call undeclaredValue store "U").1 = .error failure :=
    (call_growsTo undeclaredValue store "U").1.2 ⟨hscalar, hdeclared⟩
  obtain ⟨failure, hfailure⟩ := hfails
  exact ⟨hstored, ((call_growsTo undeclaredValue store "U").2.1 failure hfailure).2, failure, hfailure⟩

end SchemaStore

end AccessorSchema
