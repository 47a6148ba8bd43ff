import AccessorSchema.Policy.Recording
import AccessorSchema.Proofs.ManagedExtraction

/-!
# Decisions that do not depend on an order

Policies are handed lists: the declarations of a getter, those of a setter, the methods left over. They
look at the most specific declaration and at single methods, so that the order of a list can show in
what they report and not in what they decide.

* **`Accessor.Reordered`** — two accessors that differ in the order of their declarations only;
* **`Policy.Impartial`** — the decisions on such accessors, and on leftovers in another order, agree;
* **`Policy.impartial_managed`**, `Policy.impartial_recording` — both policies are impartial;
* **`checkCoverage_handled_eq`**, `checkCoverage_unhandled_perm` — coverage then depends on the set of
  methods;
* **`Extractor.extract_of_same_binding`** — and so does extraction, if the methods are bound alike.
-/

namespace AccessorSchema

/-- **`Reordered a a'`**: two accessors that differ in the order of their `declarations` only. -/
structure Accessor.Reordered (a a' : Accessor) : Prop where
  declarations : a.declarations.Perm a'.declarations
  mostSpecific : a.mostSpecific = a'.mostSpecific
  getters : a.getters = a'.getters

/-- **`Impartial policy`**: the decisions do not depend on the order of what the `policy` is
handed. -/
structure Policy.Impartial (policy : Policy) : Prop where
  /-- `classifyState`: how the value of a property is held. -/
  state : ∀ {subject : TypeName} {a a' : Accessor}, a.Reordered a' →
    (policy.classifyState subject a).1 = (policy.classifyState subject a').1
  /-- `validateSetter`: whether a setter is accepted. -/
  verdict : ∀ {subject valueType : TypeName} {getter getter' setter setter' : Accessor},
    getter.Reordered getter' → setter.Reordered setter' →
      (policy.validateSetter subject valueType getter setter).1 =
        (policy.validateSetter subject valueType getter' setter').1
  /-- `incompleteCoverage`: which of the methods left over are excused. -/
  excused : ∀ {subject : TypeName} {all all' left left' : List Method}, left.Perm left' →
    (policy.incompleteCoverage subject all left).1 = (policy.incompleteCoverage subject all' left').1

namespace Policy

/-- The policy `managed` looks at the `mostSpecific` declaration, and at the markers of single
methods. -/
theorem impartial_managed (types : TypeSettings) : (Policy.managed types).Impartial where
  state ha := by
    simp only [Policy.managed, ha.mostSpecific]
  verdict hgetter hsetter := by
    simp only [Policy.managed, hgetter.mostSpecific, hsetter.mostSpecific]
  excused hperm := by
    refine OrderedSet.ext_mem fun d => ?_
    simp only [Policy.managed, OrderedSet.mem_ofList, List.mem_filter, hperm.mem_iff]

/-- The policy `recording` always decides alike. -/
theorem impartial_recording (verdict : SetterVerdict) : (Policy.recording verdict).Impartial where
  state _ := rfl
  verdict _ _ := rfl
  excused _ := rfl

end Policy

/-! ## Coverage -/

section

variable {policy : Policy} {subject : TypeName} {all all' : List Method} {handled : OrderedSet Method}

/-- Of the same methods `leftovers` leaves the same. -/
theorem leftovers_perm (hall : ∀ d, d ∈ all ↔ d ∈ all') :
    (leftovers all handled).Perm (leftovers all' handled) := by
  refine (List.perm_ext_iff_of_nodup (nodup_distinct _) (nodup_distinct _)).2 fun d => ?_
  exact mem_leftovers.trans ((and_congr_left fun _ => hall d).trans mem_leftovers.symm)

variable (hpolicy : policy.Impartial) (hall : ∀ d, d ∈ all ↔ d ∈ all')

include hpolicy hall

/-- Of the same methods `excusedMethods` are the same. -/
theorem excusedMethods_eq :
    excusedMethods policy subject all handled = excusedMethods policy subject all' handled :=
  hpolicy.excused (leftovers_perm hall)

/-- **What `checkCoverage` has as `handled` depends on the set of methods.** -/
theorem checkCoverage_handled_eq :
    (checkCoverage policy subject all handled).1.handled =
      (checkCoverage policy subject all' handled).1.handled := by
  refine OrderedSet.ext_mem fun d => ?_
  rw [mem_checkCoverage_handled, mem_checkCoverage_handled, excusedMethods_eq hpolicy hall,
    (leftovers_perm hall).mem_iff]

/-- **What `checkCoverage` has as `unhandled` depends on the set of methods**, but for the order. -/
theorem checkCoverage_unhandled_perm :
    (checkCoverage policy subject all handled).1.unhandled.Perm
      (checkCoverage policy subject all' handled).1.unhandled := by
  rw [checkCoverage_unhandled, checkCoverage_unhandled, excusedMethods_eq hpolicy hall]
  exact (leftovers_perm hall).filter _

end

/-! ## Extraction -/

/-- **The same methods that are bound alike have the same `extract`**, but for the order of
`unhandled` and for what is reported. -/
theorem Extractor.extract_of_same_binding (x : Extractor) (target : TypeDescriptor)
    {methods methods' : List Method} (hpolicy : x.policy.Impartial)
    (hall : ∀ d, d ∈ methods ↔ d ∈ methods')
    (hproperties : (x.extract ⟨target, methods⟩).properties =
      (x.extract ⟨target, methods'⟩).properties)
    (hhandled : (x.binder ⟨target, methods⟩).bind.handled =
      (x.binder ⟨target, methods'⟩).bind.handled) :
    (x.extract ⟨target, methods⟩).schema = (x.extract ⟨target, methods'⟩).schema ∧
      (x.extract ⟨target, methods⟩).handled = (x.extract ⟨target, methods'⟩).handled ∧
      (x.extract ⟨target, methods⟩).unhandled.Perm (x.extract ⟨target, methods'⟩).unhandled := by
  refine ⟨?_, ?_, ?_⟩
  · -- The schema is made of the properties and of the aspects read off them.
    exact congrArg (fun properties => ModelSchema.struct
      { typeName := target.name, properties, aspects := (x.aspects target.name properties).1 })
      hproperties
  · rw [extract_handled, extract_handled, ← hhandled]
    exact congrArg OrderedSet.toList (checkCoverage_handled_eq hpolicy hall)
  · rw [extract_unhandled, extract_unhandled, ← hhandled]
    exact checkCoverage_unhandled_perm hpolicy hall

end AccessorSchema
