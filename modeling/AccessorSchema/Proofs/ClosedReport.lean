import Mathlib
import AccessorSchema.Proofs.CollectedDiagnostics
import AccessorSchema.Proofs.ManagedExtraction
import AccessorSchema.Report

/-!
# Reports without errors

A report is meant to be read on its own: whatever it refers to should be found in it. Two things can
go wrong, and the policy for managed structs raises an error for either: a property can have a value
type of which nothing is known, and a type can be a concrete class.

* **`SchemaReport.Closed`** — a report in which all references are resolved, to types that structs
  may be made of;
* **`SchemaStore.isKnown_of_silent`** — without errors every type with a schema is a scalar or
  declared, because its request has looked at it;
* **`Configuration.report_closed`** — a report without errors is closed.
-/

namespace AccessorSchema

/-- `Threshold.error.anyExceeded ds = false` exactly if none of `ds` is an error. -/
theorem Threshold.anyExceeded_error_eq_false_iff {ds : List Diagnostic} :
    Threshold.error.anyExceeded ds = false ↔ ∀ d ∈ ds, d.isError = false := by
  rw [anyExceeded, List.any_eq_false]
  simp only [Bool.not_eq_true]
  rfl

/-- **A report is closed** if its root has a schema, all schemas are of known types and stand under
their own names, structs are declared in `catalog` as interfaces or abstract classes, and the value
types of properties that are not opaque have schemas. -/
structure SchemaReport.Closed (catalog : Catalog) (r : SchemaReport) : Prop where
  /-- The root has a schema, `rootSchema?`. -/
  root : ∃ schema, r.rootSchema? = some schema
  /-- Something is known of every type: no schema is `.unknown`. -/
  known : ∀ t name, r.schemas.get? t ≠ some (.unknown name)
  /-- A schema stands under its `typeName`. -/
  named : ∀ t schema, r.schemas.get? t = some schema → schema.typeName = t
  /-- Each `struct` is made of an interface or an abstract class that is declared. -/
  declared : ∀ t s, r.schemas.get? t = some (.struct s) →
    ∃ d, catalog.get? s.typeName = some d ∧ (d.kind = .interface ∨ d.kind = .abstractClass)
  /-- What a `struct` refers to is in the report. -/
  linked : ∀ t s, r.schemas.get? t = some (.struct s) →
    ∀ p ∈ s.properties, p.isOpaque = false → p.valueType ∈ r.schemas.keys

namespace TypeSource

variable {source : TypeSource} {t : TypeName}

/-- `source.report root` for a `root` that is known holds what a new store holds after a call, whose
look-up finds the schema of the root. -/
theorem report_of_isKnown {root : TypeName} (h : source.isKnown root = true) :
    source.report root = .ok ((SchemaStore.afterCalls source [root]).report root) := by
  obtain ⟨schema, hcall, -⟩ := SchemaStore.call_of_known ∅ h
  unfold report
  rw [hcall]
  rfl

/-- `source.report root` for any other `root` is the failure of the call. -/
theorem report_of_unknown {root : TypeName} (h : source.isKnown root = false) :
    source.report root = .error (.unknownType root) := by
  unfold report
  rw [SchemaStore.call_of_unknown ∅ h]
  rfl

/-- `source.report root = .ok r` exactly if `root` is known and `r` is what a new store holds after a
call. -/
theorem report_eq_ok_iff {root : TypeName} {r : SchemaReport} :
    source.report root = .ok r ↔
      source.isKnown root = true ∧ r = (SchemaStore.afterCalls source [root]).report root := by
  cases h : source.isKnown root with
  | true => simp [report_of_isKnown h, eq_comm]
  | false => simp [report_of_unknown h]

/-- `schema.typeName = t` for the schema that `t` has. -/
theorem HasSchema.typeName_eq {schema : ModelSchema} (h : source.HasSchema t schema) :
    schema.typeName = t := by
  cases h with
  | value _ => rfl
  | struct _ declared => exact Catalog.target_name_of_methodSet? declared
  | unknown _ _ => rfl

/-- A type with the schema `.unknown` is neither a scalar nor declared. -/
theorem HasSchema.isKnown_of_unknown {name : TypeName} (h : source.HasSchema t (.unknown name)) :
    source.isKnown t = false := by
  cases h with
  | unknown struct undeclared =>
    rw [isKnown, struct, Bool.false_or, ← Catalog.methodSet?_isSome, undeclared]
    rfl

/-- A `.struct` is extracted from the methods of a declared type. -/
theorem HasSchema.exists_methods {s : StructSchema} (h : source.HasSchema t (.struct s)) :
    ∃ methods, source.extractor.types.isScalar t = false ∧
      source.catalog.methodSet? t = some methods ∧
        s.properties = (source.extractor.extract methods).properties := by
  generalize hs : ModelSchema.struct s = schema at h
  cases h with
  | value _ => exact absurd hs (by simp)
  | unknown _ _ => exact absurd hs (by simp)
  | @struct methods struct declared =>
    obtain rfl := ModelSchema.struct.inj hs
    exact ⟨methods, struct, declared, rfl⟩

end TypeSource

/-! ## What the silence of a store says -/

namespace SchemaStore

variable {source : TypeSource} {roots : List TypeName} {t : TypeName} {schema : ModelSchema}

/-- Every schema of `afterCalls source roots` is the one that its type has, by
`TypeSource.HasSchema`. -/
theorem hasSchema_of_schema? (h : (afterCalls source roots).schema? t = some schema) :
    t ∈ (afterCalls source roots).schemas.keys ∧ source.HasSchema t schema := by
  have ht : t ∈ (afterCalls source roots).schemas.keys := mem_keys_iff_exists_schema.2 ⟨schema, h⟩
  have hdescribed := described_afterCalls source roots t ht
  exact ⟨ht, TypeSource.hasSchema_iff.2 (Option.some.inj (h.symm.trans hdescribed))⟩

/-- `p.valueType` has a schema in `afterCalls source roots` for a property `p` that is not
opaque. -/
theorem valueType_mem_keys {methods : MethodSet} {p : BoundProperty}
    (ht : t ∈ (afterCalls source roots).schemas.keys)
    (hs : source.extractor.types.isScalar t = false)
    (hm : source.catalog.methodSet? t = some methods)
    (hp : p ∈ (source.extractor.extract methods).properties) (transparent : p.isOpaque = false) :
    p.valueType ∈ (afterCalls source roots).schemas.keys := by
  obtain ⟨root, hroot, hknown, hreach⟩ := mem_keys_afterCalls_iff.1 ht
  exact mem_keys_afterCalls_iff.2 ⟨root, hroot, hknown, .property hreach hs hm hp transparent⟩

section Silent

variable (hsilent : ∀ d ∈ (afterCalls source roots).diagnostics, d.isError = false)

include hsilent

/-- Nothing that is `owed` for a type with a schema is an error. -/
theorem isError_of_mem_owed {d : Diagnostic} (ht : t ∈ (afterCalls source roots).schemas.keys)
    (hd : d ∈ source.owed t) : d.isError = false := by
  have hmem : d ∈ (afterCalls source roots).schemas.keys.flatMap source.owed :=
    List.mem_flatMap.2 ⟨t, ht, hd⟩
  exact hsilent d ((collected_afterCalls source roots).mem_iff.2 hmem)

variable {types : TypeSettings} (hpolicy : source.extractor.policy = .managed types)

include hpolicy

/-- **Without errors every type with a schema is a scalar or declared.** A type that is no root was
asked for by a property, and that request would have objected to it
(`TypeSource.validateProperty_managed`). -/
theorem isKnown_of_silent (ht : t ∈ (afterCalls source roots).schemas.keys) :
    source.isKnown t = true := by
  obtain ⟨root, hroot, hknown, hreach⟩ := mem_keys_afterCalls_iff.1 ht
  cases hreach with
  | root => exact hknown
  | @property owner methods p reached struct declared bound transparent =>
    -- The type with the property has a schema as well, so it has asked for this one.
    have howner : owner ∈ (afterCalls source roots).schemas.keys :=
      mem_keys_afterCalls_iff.2 ⟨root, hroot, hknown, reached⟩
    have hrequest := TypeSource.mem_requests_describe struct declared bound transparent
    by_contra hunknown
    have hremarks : source.remarks (.ofProperty source.extractor.policy methods.target.name p) =
        [.unsupported methods.target.name p] := by
      have hvalidate := TypeSource.validateProperty_managed source types methods.target.name p
      rw [if_neg hunknown, ← hpolicy] at hvalidate
      exact hvalidate
    have howed : .unsupported methods.target.name p ∈ source.owed owner := by
      refine List.mem_append_right _ (List.mem_flatMap.2 ⟨_, hrequest, ?_⟩)
      rw [hremarks]
      exact List.mem_singleton_self _
    have herror := isError_of_mem_owed hsilent howner howed
    exact absurd herror (by simp [Diagnostic.isError, Diagnostic.unsupported])

/-- **Without errors no struct is made of a `.concreteClass`.** -/
theorem kind_of_silent {methods : MethodSet} (ht : t ∈ (afterCalls source roots).schemas.keys)
    (hs : source.extractor.types.isScalar t = false)
    (hm : source.catalog.methodSet? t = some methods) : methods.target.kind ≠ .concreteClass := by
  rw [← @silent_validateHierarchy_iff types, ← hpolicy]
  intro d hd
  refine isError_of_mem_owed hsilent ht (List.mem_append_left _ ?_)
  rw [TypeSource.describe_of_methodSet? hs hm, Extractor.diagnostics_extract]
  exact List.mem_append_left _ (List.mem_append_left _ (List.mem_append_left _ hd))

end Silent

end SchemaStore

/-! ## Closed reports -/

/-- A `kind` other than `.concreteClass` is `.interface` or `.abstractClass`. -/
theorem TypeKind.eq_or_eq_of_ne_concreteClass {kind : TypeKind} (h : kind ≠ .concreteClass) :
    kind = .interface ∨ kind = .abstractClass := by
  cases kind with
  | interface => exact .inl rfl
  | abstractClass => exact .inr rfl
  | concreteClass => exact absurd rfl h

open SchemaStore in
/-- **A report without errors is closed.** For every `catalog`, configuration `c` and `root`, if
extracting the root from a new store succeeds and no diagnostic of the report `r` is an error, all
that the report refers to is found in it. -/
theorem Configuration.report_closed {c : Configuration} {catalog : Catalog} {root : TypeName}
    {r : SchemaReport} (hr : (c.source catalog).report root = .ok r)
    (hfails : r.fails .error = false) : r.Closed catalog := by
  obtain ⟨hknown, rfl⟩ := TypeSource.report_eq_ok_iff.1 hr
  have hsilent := Threshold.anyExceeded_error_eq_false_iff.1 hfails
  have hpolicy : (c.source catalog).extractor.policy = .managed c.types := rfl
  refine ⟨?_, fun t name h => ?_, fun t schema h => ?_, fun t s h => ?_, fun t s h => ?_⟩
  · exact mem_keys_iff_exists_schema.1 (root_mem_keys_afterCalls List.mem_cons_self hknown)
  · obtain ⟨ht, hschema⟩ := hasSchema_of_schema? h
    -- A value type of which nothing is known would have been an error.
    have hk := isKnown_of_silent hsilent hpolicy ht
    rw [hschema.isKnown_of_unknown] at hk
    exact absurd hk (by decide)
  · exact (hasSchema_of_schema? h).2.typeName_eq
  · obtain ⟨ht, hschema⟩ := hasSchema_of_schema? h
    obtain ⟨methods, hs, hm, -⟩ := hschema.exists_methods
    obtain ⟨d, hd, htarget⟩ := Catalog.exists_of_methodSet? hm
    have hname : s.typeName = t := hschema.typeName_eq
    -- A concrete class would have been an error.
    have hkind := kind_of_silent hsilent hpolicy ht hs hm
    rw [htarget] at hkind
    rw [hname]
    exact ⟨d, hd, TypeKind.eq_or_eq_of_ne_concreteClass hkind⟩
  · obtain ⟨ht, hschema⟩ := hasSchema_of_schema? h
    obtain ⟨methods, hs, hm, hproperties⟩ := hschema.exists_methods
    intro p hp transparent
    rw [hproperties] at hp
    exact valueType_mem_keys ht hs hm hp transparent

/-- A catalog of an abstract class `A` and an interface `B` that refer to each other, without
scalars. -/
def mutualReferences : Catalog where
  types :=
    ⟨[("A", { name := "A", kind := .abstractClass, methods := [{ name := "getX", returns := "B" }] }),
      ("B", { name := "B", methods := [{ name := "getY", returns := "A" }] })],
      List.pairwise_pair.2 (by decide)⟩
  name_eq := by
    intro name d h
    simp only [OrderedMap.get?, OrderedMap.lookup] at h
    grind

/-- The report on `B` in `mutualReferences` is closed, as `report_closed` has it. -/
theorem mutualReferences_closed :
    ∃ r, (({ types := { scalars := ∅ } } : Configuration).source mutualReferences).report "B" =
        .ok r ∧ r.fails .error = false ∧ r.Closed mutualReferences := by
  have hknown : (({ types := { scalars := ∅ } } : Configuration).source mutualReferences).isKnown
      "B" = true := by cbv
  have hfails : ((SchemaStore.afterCalls
      (({ types := { scalars := ∅ } } : Configuration).source mutualReferences) ["B"]).report
        "B").fails .error = false := by cbv
  have hr := TypeSource.report_eq_ok_iff.2 ⟨hknown, rfl⟩
  exact ⟨_, hr, hfails, Configuration.report_closed hr hfails⟩

end AccessorSchema
