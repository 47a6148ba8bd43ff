import Mathlib
import AccessorSchema.Proofs.ClosedReport

/-!
# Roots in any order

A store remembers what it has seen, so the roots of later calls find work done that a new store does
again. Nothing of this shows in the end: what a store holds is settled by the types that can be
reached, and these by the roots as a set.

* **`SchemaStore.get?_afterCalls_eq_some_iff`** — the schemas of a store, from the roots alone;
* **`SchemaStore.schemas_afterCalls_congr`**, **`SchemaStore.diagnostics_afterCalls_perm`** — order and
  repetition of the roots do not matter;
* **`TypeSource.mem_reports_iff`** — the reports on several roots, each from a store of its own;
* **`TypeSource.ReportsAgree`** — such reports agree with each other and with one store for all roots;
* **`Configuration.roots_unordered`** — one store for all roots, and one store for each of them, come
  to the same.
-/

namespace AccessorSchema

open scoped List

namespace TypeSource

variable {source : TypeSource} {roots roots' : List TypeName} {t : TypeName}

/-- For `ReachedFrom` it only matters which types are among the roots. -/
theorem reachedFrom_congr (h : ∀ root, root ∈ roots ↔ root ∈ roots') :
    source.ReachedFrom roots t ↔ source.ReachedFrom roots' t := by
  constructor
  · exact .mono fun root hroot => (h root).1 hroot
  · exact .mono fun root hroot => (h root).2 hroot

/-- A type is `ReachedFrom` several roots exactly if it is from one of them alone. -/
theorem reachedFrom_iff_exists_singleton :
    source.ReachedFrom roots t ↔
      ∃ root ∈ roots, source.isKnown root = true ∧ source.ReachedFrom [root] t := by
  constructor
  · rintro ⟨root, hroot, hknown, hreach⟩
    exact ⟨root, hroot, hknown, root, List.mem_singleton_self root, hknown, hreach⟩
  · rintro ⟨root, hroot, -, hreach⟩
    exact hreach.mono fun r hr => List.mem_singleton.1 hr ▸ hroot

end TypeSource

namespace SchemaStore

variable {source : TypeSource} {roots roots' : List TypeName} {t : TypeName}

/-- **The schemas of `afterCalls` are those of the types `ReachedFrom` its roots**, each type having
the schema that `describe` gives. -/
theorem get?_afterCalls_eq_some_iff {schema : ModelSchema} :
    (afterCalls source roots).schemas.get? t = some schema ↔
      source.ReachedFrom roots t ∧ schema = (source.describe t).schema := by
  rw [← mem_keys_afterCalls_iff]
  constructor
  · intro h
    obtain ⟨ht, hschema⟩ := hasSchema_of_schema? h
    exact ⟨ht, TypeSource.hasSchema_iff.1 hschema⟩
  · rintro ⟨ht, rfl⟩
    exact described_afterCalls source roots t ht

/-- **The same roots, in any order and however often, lead to the same `schemas`.** -/
theorem schemas_afterCalls_congr (h : ∀ root, root ∈ roots ↔ root ∈ roots') :
    (afterCalls source roots).schemas = (afterCalls source roots').schemas := by
  refine OrderedMap.ext_get fun t => Option.ext fun schema => ?_
  rw [get?_afterCalls_eq_some_iff, get?_afterCalls_eq_some_iff,
    TypeSource.reachedFrom_congr h]

/-- **The same roots lead to the same `diagnostics`**, in an order that can differ. -/
theorem diagnostics_afterCalls_perm (h : ∀ root, root ∈ roots ↔ root ∈ roots') :
    (afterCalls source roots).diagnostics ~ (afterCalls source roots').diagnostics := by
  -- Either store has collected what is owed for its types, and these are the same.
  have hschemas : (afterCalls source roots).schemas = (afterCalls source roots').schemas :=
    schemas_afterCalls_congr h
  calc (afterCalls source roots).diagnostics
      ~ (afterCalls source roots).schemas.keys.flatMap source.owed :=
        collected_afterCalls source roots
    _ = (afterCalls source roots').schemas.keys.flatMap source.owed := by rw [hschemas]
    _ ~ (afterCalls source roots').diagnostics := (collected_afterCalls source roots').symm

end SchemaStore

/-! ## One store for each root -/

namespace TypeSource

variable {source : TypeSource} {roots : List TypeName} {r : SchemaReport}

/-- `report` fails exactly on a root that is neither a scalar nor declared, as `isKnown` has it. -/
theorem report_eq_error_iff {root : TypeName} {e : Failure} :
    source.report root = .error e ↔ source.isKnown root = false ∧ e = .unknownType root := by
  cases h : source.isKnown root with
  | true => simp [report_of_isKnown h]
  | false => simp [report_of_unknown h, eq_comm]

/-- **The `reports` on several roots** are what new stores hold after one call each. -/
theorem mem_reports_iff :
    .ok r ∈ source.reports roots ↔
      ∃ root ∈ roots, source.isKnown root = true ∧
        r = (SchemaStore.afterCalls source [root]).report root := by
  unfold reports
  simp only [List.mem_map, report_eq_ok_iff]

/-- What one of the `reports` holds for a type is the schema that `describe` gives. -/
theorem schema_eq_of_mem_reports {t : TypeName} {schema : ModelSchema}
    (hr : .ok r ∈ source.reports roots) (h : r.schemas.get? t = some schema) :
    schema = (source.describe t).schema := by
  obtain ⟨root, -, -, rfl⟩ := mem_reports_iff.1 hr
  exact (SchemaStore.get?_afterCalls_eq_some_iff.1 h).2

/-- **The `reports` together hold what one store holds after all the calls.** -/
theorem exists_mem_reports_iff {t : TypeName} {schema : ModelSchema} :
    (∃ r, .ok r ∈ source.reports roots ∧ r.schemas.get? t = some schema) ↔
      (SchemaStore.afterCalls source roots).schemas.get? t = some schema := by
  rw [SchemaStore.get?_afterCalls_eq_some_iff, reachedFrom_iff_exists_singleton]
  constructor
  · rintro ⟨r, hr, h⟩
    obtain ⟨root, hroot, hknown, rfl⟩ := mem_reports_iff.1 hr
    obtain ⟨hreach, hschema⟩ := SchemaStore.get?_afterCalls_eq_some_iff.1 h
    exact ⟨⟨root, hroot, hknown, hreach⟩, hschema⟩
  · rintro ⟨⟨root, hroot, hknown, hreach⟩, hschema⟩
    exact ⟨_, mem_reports_iff.2 ⟨root, hroot, hknown, rfl⟩,
      SchemaStore.get?_afterCalls_eq_some_iff.2 ⟨hreach, hschema⟩⟩

end TypeSource

/-! ## Both ways come to the same -/

/-- **`ReportsAgree source roots`: reports on several roots that fit together**, each from a store
of its own. -/
structure TypeSource.ReportsAgree (source : TypeSource) (roots : List TypeName) : Prop where
  /-- Each of the `roots` has one result. -/
  length_eq : (source.reports roots).length = roots.length
  /-- Roots that are neither scalars nor declared fail as `unknownType`, and no others. -/
  failed : ∀ (i : Nat) (root : TypeName), roots[i]? = some root →
    ((source.reports roots)[i]? = some (Except.error (Failure.unknownType root)) ↔
      source.extractor.types.isScalar root = false ∧ source.catalog.contains root = false)
  /-- Every other root has a report that names it as its `root`. -/
  reported : ∀ (i : Nat) (root : TypeName), roots[i]? = some root →
    source.extractor.types.isScalar root = true ∨ source.catalog.contains root = true →
      ∃ r : SchemaReport, (source.reports roots)[i]? = some (Except.ok r) ∧ r.root = root
  /-- A type has one schema in all `reports` that have one of it. -/
  agree : ∀ r r', .ok r ∈ source.reports roots → .ok r' ∈ source.reports roots →
    ∀ t ∈ r.schemas.keys, t ∈ r'.schemas.keys → r.schemas.get? t = r'.schemas.get? t
  /-- Together the `reports` hold what one store holds after calls with all the roots. -/
  union : ∀ t schema, (∃ r, .ok r ∈ source.reports roots ∧ r.schemas.get? t = some schema) ↔
    (SchemaStore.afterCalls source roots).schemas.get? t = some schema

namespace TypeSource

variable (source : TypeSource) (roots : List TypeName)

/-- **Reports from stores of their own fit together**: `ReportsAgree` holds for every source of
types. -/
theorem reportsAgree : source.ReportsAgree roots := by
  have hreport : ∀ {i : Nat} {root : TypeName}, roots[i]? = some root →
      (source.reports roots)[i]? = some (source.report root) := by
    intro i root hi
    rw [reports, List.getElem?_map, hi, Option.map_some]
  refine
    { length_eq := List.length_map _
      failed := fun i root hi => ?_
      reported := fun i root hi hknown => ?_
      agree := fun r r' hr hr' t ht ht' => ?_
      union := fun t schema => exists_mem_reports_iff }
  · rw [hreport hi, Option.some.injEq, report_eq_error_iff, isKnown, Bool.or_eq_false_iff]
    exact and_iff_left rfl
  · have hk : source.isKnown root = true := Bool.or_eq_true_iff.2 hknown
    exact ⟨_, (hreport hi).trans (congrArg some (report_eq_ok_iff.2 ⟨hk, rfl⟩)), rfl⟩
  · -- Either schema is that of the type's description.
    obtain ⟨schema, h⟩ := Option.isSome_iff_exists.1 (OrderedMap.mem_keys_iff.1 ht)
    obtain ⟨schema', h'⟩ := Option.isSome_iff_exists.1 (OrderedMap.mem_keys_iff.1 ht')
    rw [h, h', schema_eq_of_mem_reports hr h, schema_eq_of_mem_reports hr' h']

end TypeSource

open SchemaStore in
/-- **The order and the repetition of roots do not matter, nor whether they share a store.** For
every configuration and catalog, `afterCalls` with the same roots leaves the same schemas and, in
some order, the same diagnostics; and `ReportsAgree`: reports from stores of their own fit
together. -/
theorem Configuration.roots_unordered (c : Configuration) (catalog : Catalog) :
    (∀ roots roots' : List TypeName, (∀ root, root ∈ roots ↔ root ∈ roots') →
      (afterCalls (c.source catalog) roots).schemas =
          (afterCalls (c.source catalog) roots').schemas ∧
        (afterCalls (c.source catalog) roots).diagnostics.Perm
          (afterCalls (c.source catalog) roots').diagnostics) ∧
      ∀ roots : List TypeName, (c.source catalog).ReportsAgree roots := by
  constructor
  · intro roots roots' h
    exact ⟨schemas_afterCalls_congr h, diagnostics_afterCalls_perm h⟩
  · intro roots
    exact (c.source catalog).reportsAgree roots

/-- Two types that refer to each other, a scalar `int` and an unknown type `X`, in two orders as
roots. -/
theorem mutualReferences_reordered :
    (∀ root : TypeName, root ∈ ["B", "int", "X", "A"] ↔ root ∈ ["A", "X", "B", "int", "A"]) ∧
      (SchemaStore.afterCalls (({} : Configuration).source mutualReferences)
          ["B", "int", "X", "A"]).schemas =
        (SchemaStore.afterCalls (({} : Configuration).source mutualReferences)
          ["A", "X", "B", "int", "A"]).schemas ∧
      ((({} : Configuration).source mutualReferences).reports ["B", "int", "X", "A"])[2]? =
        some (Except.error (Failure.unknownType "X")) := by
  have hroots : ∀ root : TypeName,
      root ∈ ["B", "int", "X", "A"] ↔ root ∈ ["A", "X", "B", "int", "A"] := by
    intro root
    simp only [List.mem_cons, List.not_mem_nil, or_false]
    tauto
  have hunknown : (({} : Configuration).source mutualReferences).extractor.types.isScalar "X" =
      false ∧ mutualReferences.contains "X" = false := by decide
  obtain ⟨hsame, hagree⟩ := Configuration.roots_unordered {} mutualReferences
  have hfailed := ((hagree ["B", "int", "X", "A"]).failed 2 "X" rfl).2 hunknown
  exact ⟨hroots, (hsame _ _ hroots).1, hfailed⟩

end AccessorSchema
