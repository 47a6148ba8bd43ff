import AccessorSchema.Extraction
import AccessorSchema.Proofs.Accounting

/-!
# Handled and unhandled methods part the method set

* `mem_leftovers`, `leftovers_sublist` — what is left over, and in which order;
* `checkCoverage_unhandled`, `mem_checkCoverage_handled` — the policy's excuse moves methods from
  the leftovers to the handled ones, and nothing else;
* **`Extractor.handled_unhandled_partition`** — under every policy each method that was given is
  either handled or unhandled, and no other method is.
-/

namespace AccessorSchema

/-! ## Leftovers -/

/-- `m ∈ leftovers all handled` exactly if `m` was given and is not `handled`. -/
@[simp] theorem mem_leftovers {all : List Method} {handled : OrderedSet Method} {m : Method} :
    m ∈ leftovers all handled ↔ m ∈ all ∧ m ∉ handled := by
  rw [leftovers, mem_distinct, List.mem_filter, decide_eq_true_eq]

/-- `leftovers all handled` stands in the order of first occurrence, that of `distinct all`. -/
theorem leftovers_sublist (all : List Method) (handled : OrderedSet Method) :
    (leftovers all handled).Sublist (distinct all) := by
  rw [leftovers, distinct_filter]
  exact List.filter_sublist

/-! ## The check -/

section

variable (policy : Policy) (subject : TypeName) (all : List Method) (handled : OrderedSet Method)

/-- The methods that `policy` excuses when it is told of the `leftovers`. -/
def excusedMethods : OrderedSet Method :=
  (policy.incompleteCoverage subject all (leftovers all handled)).1

/-- `checkCoverage` leaves the `leftovers` unhandled that are none of the `excusedMethods`. -/
theorem checkCoverage_unhandled :
    (checkCoverage policy subject all handled).1.unhandled =
      (leftovers all handled).filter (· ∉ excusedMethods policy subject all handled) := by
  unfold checkCoverage excusedMethods
  cases leftovers all handled with
  | nil => rfl
  | cons d rest => rfl

/-- In `checkCoverage` the `leftovers` that are `excusedMethods` join the `handled` methods. -/
theorem mem_checkCoverage_handled {m : Method} :
    m ∈ (checkCoverage policy subject all handled).1.handled ↔
      m ∈ handled ∨ m ∈ leftovers all handled ∧ m ∈ excusedMethods policy subject all handled := by
  unfold checkCoverage excusedMethods
  cases leftovers all handled with
  | nil => simp
  | cons d rest =>
    rw [OrderedSet.mem_insertMany, List.mem_filter, decide_eq_true_eq]

/-- `checkCoverage` gives no method as both handled and unhandled. -/
theorem not_mem_unhandled_of_mem_handled {m : Method}
    (hm : m ∈ (checkCoverage policy subject all handled).1.handled) :
    m ∉ (checkCoverage policy subject all handled).1.unhandled := by
  rw [checkCoverage_unhandled, List.mem_filter, decide_eq_true_eq, mem_leftovers]
  rintro ⟨⟨-, hnot⟩, hexc⟩
  rcases (mem_checkCoverage_handled policy subject all handled).1 hm with hh | ⟨-, he⟩
  · exact hnot hh
  · exact hexc he

/-- `checkCoverage` gives every method as handled or unhandled, and beside those of `all` only what
had been `handled` before. -/
theorem mem_handled_or_mem_unhandled {m : Method} :
    m ∈ (checkCoverage policy subject all handled).1.handled ∨
        m ∈ (checkCoverage policy subject all handled).1.unhandled ↔
      m ∈ handled ∨ m ∈ all := by
  rw [mem_checkCoverage_handled, checkCoverage_unhandled, List.mem_filter, decide_eq_true_eq,
    mem_leftovers]
  constructor
  · rintro ((hh | ⟨⟨ha, -⟩, -⟩) | ⟨⟨ha, -⟩, -⟩)
    · exact .inl hh
    · exact .inr ha
    · exact .inr ha
  · intro h
    by_cases hh : m ∈ handled
    · exact .inl (.inl hh)
    · have ha : m ∈ all := h.resolve_left hh
      by_cases he : m ∈ excusedMethods policy subject all handled
      · exact .inl (.inr ⟨⟨ha, hh⟩, he⟩)
      · exact .inr ⟨⟨ha, hh⟩, he⟩

end

/-! ## Extraction -/

namespace Extractor

/-- The groups of `x.binder m` are those of the methods of `m`. -/
@[simp] theorem binder_groups (x : Extractor) (m : MethodSet) :
    (x.binder m).groups = .ofMethods m.methods := rfl

/-- `(x.extract m).handled`: what `Binder.bind` has accounted for, with what the policy excuses. -/
theorem extract_handled (x : Extractor) (m : MethodSet) :
    (x.extract m).handled =
      (checkCoverage x.policy m.target.name m.methods
        (x.binder m).bind.handled).1.handled.toList := rfl

/-- `(x.extract m).unhandled`: what neither `Binder.bind` nor the policy has accounted for. -/
theorem extract_unhandled (x : Extractor) (m : MethodSet) :
    (x.extract m).unhandled =
      (checkCoverage x.policy m.target.name m.methods (x.binder m).bind.handled).1.unhandled := rfl

/-- `(x.binder m).bind.handled` lists no method that was not given. -/
theorem bind_handled_subset (x : Extractor) (m : MethodSet) {d : Method}
    (hd : d ∈ (x.binder m).bind.handled) : d ∈ m.methods := by
  obtain ⟨o, -, hacc⟩ := Binder.accounts_of_mem_bind_handled (x.binder_groups m) hd
  exact hacc.mem_methods

/-- **Handled and unhandled methods part the method set.** Under every policy no method of `m` is
both, together they are exactly the methods that were given, `handled` increases strictly in the
order of methods, and `unhandled` lists each of its methods once, by first occurrence. -/
theorem handled_unhandled_partition (x : Extractor) (m : MethodSet) :
    (∀ d ∈ (x.extract m).handled, d ∉ (x.extract m).unhandled) ∧
      (∀ d, d ∈ (x.extract m).handled ∨ d ∈ (x.extract m).unhandled ↔ d ∈ m.methods) ∧
      ((x.extract m).handled.Pairwise fun a b => compare a b = .lt) ∧
      (x.extract m).unhandled.Nodup ∧
      ((x.extract m).unhandled.Pairwise fun a b => m.methods.idxOf a < m.methods.idxOf b) := by
  rw [extract_handled, extract_unhandled]
  -- Unhandled methods are selected from the different methods, so their order is kept.
  have hsub : ((checkCoverage x.policy m.target.name m.methods
      (x.binder m).bind.handled).1.unhandled).Sublist (distinct m.methods) := by
    rw [checkCoverage_unhandled]
    exact List.filter_sublist.trans (leftovers_sublist _ _)
  refine ⟨fun d hd => ?_, fun d => ?_, OrderedSet.increasing _, ?_, ?_⟩
  · exact not_mem_unhandled_of_mem_handled _ _ _ _ hd
  · rw [← OrderedSet.mem_iff, mem_handled_or_mem_unhandled]
    constructor
    · rintro (hd | hd)
      · exact x.bind_handled_subset m hd
      · exact hd
    · exact .inr
  · exact (nodup_distinct m.methods).sublist hsub
  · exact (pairwise_idxOf_distinct m.methods).sublist hsub

end Extractor

end AccessorSchema
