import AccessorSchema.TypeHierarchy
import Mathlib.Logic.Relation

/-!
# Subtyping is reachability

A breadth-first visit passes over what it has seen and goes on to the successors of everything else.
Whatever leads from the queue is therefore listed in the end, unless it has been seen before:

* **`FiniteGraph.mem_visit_iff`** — a visit lists exactly what can be reached, in any graph;
* **`TypeHierarchy.isSubtype_iff`** — a subtype leads to its supertype by direct supertypes, cycles
  included, so that subtyping is reflexive and transitive;
* **`TypeHierarchy.Antisymmetric`** — no two types are subtypes of each other, which makes the proper
  subtypes a strict order;
* **`TypeHierarchy.antisymmetric_of_rank`** — it is enough that supertypes rank below their subtypes.
-/

namespace AccessorSchema

/-! ## Visits -/

namespace FiniteGraph

variable {α : Type} [DecidableEq α] {g : FiniteGraph α} {seen queue : List α} {a b : α}

/-- **`Leads g a b`: what can be reached** by zero or more steps of `next`. -/
def Leads (g : FiniteGraph α) : α → α → Prop := Relation.ReflTransGen fun a b => b ∈ g.next a

/-- What `visitFrom` lists can be reached from the `queue`. -/
theorem exists_leads_of_mem_visitFrom (h : b ∈ g.visitFrom seen queue) :
    ∃ a ∈ queue, g.Leads a b := by
  fun_induction g.visitFrom seen queue with
  | case1 => exact absurd h List.not_mem_nil
  | case2 seen c queue _ ih =>
    obtain ⟨a, ha, hab⟩ := ih h
    exact ⟨a, List.mem_cons_of_mem c ha, hab⟩
  | case3 seen c queue _ ih =>
    rcases List.mem_cons.1 h with rfl | h
    · exact ⟨b, List.mem_cons_self, .refl⟩
    · obtain ⟨a, ha, hab⟩ := ih h
      rcases List.mem_append.1 ha with ha | ha
      · exact ⟨a, List.mem_cons_of_mem c ha, hab⟩
      · exact ⟨c, List.mem_cons_self, .head ha hab⟩

/-- What waits in the `queue` is listed by `visitFrom`, unless it is among `seen`. -/
theorem mem_visitFrom_of_mem (h : a ∈ queue) (hseen : a ∉ seen) : a ∈ g.visitFrom seen queue := by
  fun_induction g.visitFrom seen queue with
  | case1 => exact absurd h List.not_mem_nil
  | case2 seen c queue hc ih =>
    rcases List.mem_cons.1 h with rfl | h
    · exact absurd hc hseen
    · exact ih h hseen
  | case3 seen c queue _ ih =>
    by_cases hac : a = c
    · exact hac ▸ List.mem_cons_self
    · -- What is taken from the queue joins what has been seen, and the rest keeps waiting.
      have hqueue : a ∈ queue := (List.mem_cons.1 h).resolve_left hac
      refine List.mem_cons_of_mem c (ih (List.mem_append_left _ hqueue) fun hs => ?_)
      exact (List.mem_cons.1 hs).elim hac hseen

/-- **The successors of what `visitFrom` lists are listed**, unless they are among `seen`. -/
theorem mem_visitFrom_of_next (h : a ∈ g.visitFrom seen queue) (hnext : b ∈ g.next a)
    (hseen : b ∉ seen) : b ∈ g.visitFrom seen queue := by
  fun_induction g.visitFrom seen queue with
  | case1 => exact absurd h List.not_mem_nil
  | case2 seen c queue _ ih => exact ih h hseen
  | case3 seen c queue _ ih =>
    by_cases hbc : b = c
    · exact hbc ▸ List.mem_cons_self
    · have hseen' : b ∉ c :: seen := fun hs => (List.mem_cons.1 hs).elim hbc hseen
      refine List.mem_cons_of_mem c ?_
      rcases List.mem_cons.1 h with rfl | h
      · -- The element has just been taken from the queue, and its successors have joined it.
        exact mem_visitFrom_of_mem (List.mem_append_right _ hnext) hseen'
      · exact ih h hseen'

/-- **`visit` lists exactly what `a` `Leads` to.** -/
theorem mem_visit_iff : b ∈ g.visit a ↔ g.Leads a b := by
  constructor
  · intro h
    obtain ⟨c, hc, hcb⟩ := exists_leads_of_mem_visitFrom h
    rwa [List.mem_singleton.1 hc] at hcb
  · intro h
    induction h with
    | refl => exact mem_visitFrom_of_mem (List.mem_singleton_self a) List.not_mem_nil
    | tail _ hnext ih => exact mem_visitFrom_of_next ih hnext List.not_mem_nil

end FiniteGraph

/-! ## Subtypes -/

namespace TypeHierarchy

variable {h : TypeHierarchy} {s t u : TypeName}

/-- **`isSubtype` holds exactly if direct supertypes lead from the one type to the other.** -/
theorem isSubtype_iff : h.isSubtype s t = true ↔ h.graph.Leads s t := by
  rw [isSubtype, decide_eq_true_eq, FiniteGraph.mem_visit_iff]

/-- `isSubtype` is transitive. -/
theorem isSubtype_trans (hst : h.isSubtype s t = true) (htu : h.isSubtype t u = true) :
    h.isSubtype s u = true :=
  isSubtype_iff.2 ((isSubtype_iff.1 hst).trans (isSubtype_iff.1 htu))

/-- `isProperSubtype` holds of a subtype other than the type itself. -/
theorem isProperSubtype_iff : h.isProperSubtype s t = true ↔ s ≠ t ∧ h.isSubtype s t = true := by
  rw [isProperSubtype, Bool.and_eq_true, decide_eq_true_eq]

/-- **`Antisymmetric h`: no two different types are subtypes of each other.** -/
def Antisymmetric (h : TypeHierarchy) : Prop :=
  ∀ s t, h.isSubtype s t = true → h.isSubtype t s = true → s = t

namespace Antisymmetric

variable (hanti : h.Antisymmetric)

include hanti

/-- Where the hierarchy is `Antisymmetric`, no type is a proper subtype of its proper subtypes. -/
theorem not_isProperSubtype (hst : h.isProperSubtype s t = true) :
    ¬ h.isProperSubtype t s = true := by
  rw [isProperSubtype_iff] at hst ⊢
  exact fun hts => hst.1 (hanti s t hst.2 hts.2)

/-- There `isProperSubtype` is transitive. -/
theorem isProperSubtype_trans (hst : h.isProperSubtype s t = true)
    (htu : h.isProperSubtype t u = true) : h.isProperSubtype s u = true := by
  rw [isProperSubtype_iff] at hst htu ⊢
  refine ⟨?_, isSubtype_trans hst.2 htu.2⟩
  rintro rfl
  exact hst.1 (hanti s t hst.2 htu.2)

end Antisymmetric

/-- **Types can be ranked where none is its own supertype**: if every declared supertype has a lower
`rank` than the type it is declared for, the hierarchy is `Antisymmetric`. -/
theorem antisymmetric_of_rank (rank : TypeName → Nat)
    (hrank : ∀ d ∈ h.declarations, ∀ t ∈ d.2, rank t < rank d.1) : h.Antisymmetric := by
  have hstep : ∀ {s t}, t ∈ h.graph.next s → rank t < rank s := by
    intro s t ht
    obtain ⟨d, hd, htd⟩ := List.mem_flatMap.1 ht
    obtain ⟨hmem, hname⟩ := List.mem_filter.1 hd
    exact of_decide_eq_true hname ▸ hrank d hmem t htd
  have hleads : ∀ {s t}, h.graph.Leads s t → t = s ∨ rank t < rank s := by
    intro s t hst
    induction hst with
    | refl => exact .inl rfl
    | tail _ hnext ih =>
      rcases ih with rfl | hlt
      · exact .inr (hstep hnext)
      · exact .inr (Nat.lt_trans (hstep hnext) hlt)
  -- Two types that lead to each other would each rank below the other.
  intro s t hst hts
  rcases hleads (isSubtype_iff.1 hst) with heq | hlt
  · exact heq.symm
  · rcases hleads (isSubtype_iff.1 hts) with heq | hlt'
    · exact heq
    · exact absurd hlt (Nat.lt_asymm hlt')

end TypeHierarchy

end AccessorSchema
