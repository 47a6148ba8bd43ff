import AccessorSchema.Conflict
import AccessorSchema.Proofs.FirstOccurrence

/-!
# Overloads, override chains and the most specific method

* **`overloads_eq_nil_iff`** — nothing is overloaded exactly if all methods have one signature;
* **`unambiguous`** — what an overloaded list keeps are the methods without parameters; whatever is
  kept has one parameter list (`parameterTypes_eq_of_mem_unambiguous`);
* **`mem_flatten_overrideChains_iff`** — override chains hold the methods whose signature another
  method has;
* **`mem_of_mostSpecific?`**, `exists_mostSpecific?` — a list that is not empty has a most specific
  method, and it is one of the list;
* **`mostSpecific?_append`** — over two lists one after the other the choice goes on from that of
  the first.
-/

namespace AccessorSchema

/-! ## Overloads -/

/-- **`overloads methods = []`** exactly if all methods have one signature. -/
theorem overloads_eq_nil_iff {methods : List Method} :
    overloads methods = [] ↔ ∀ m ∈ methods, ∀ n ∈ methods, m.SameSignature n := by
  have hkey : (firstOfEachSignature methods).length ≤ 1 ↔
      ∀ m ∈ methods, ∀ n ∈ methods, m.SameSignature n := by
    rw [firstOfEachSignature, length_distinctOn_le_one_iff]
    simp only [Method.signatureKey_eq_iff]
  rw [← hkey]
  unfold overloads
  by_cases hlen : 1 < (firstOfEachSignature methods).length
  · rw [if_pos hlen]
    constructor
    · intro hnil
      rw [hnil] at hlen
      simp at hlen
    · intro hle
      omega
  · rw [if_neg hlen]
    simpa using Nat.le_of_not_lt hlen

/-- `overloads methods ⊆ methods`. -/
theorem overloads_subset (methods : List Method) : overloads methods ⊆ methods := by
  intro m hm
  unfold overloads at hm
  by_cases hlen : 1 < (firstOfEachSignature methods).length
  · rw [if_pos hlen] at hm
    exact mem_of_mem_distinctOn hm
  · rw [if_neg hlen] at hm
    exact absurd hm List.not_mem_nil

/-- The `methods` of a list that remain once overloads have been reported. -/
def unambiguous (methods : List Method) : List Method :=
  if overloads methods = [] then methods else methods.filter (·.arity = 0)

/-- `unambiguous methods = methods` without overloads. -/
theorem unambiguous_of_overloads_eq_nil {methods : List Method} (h : overloads methods = []) :
    unambiguous methods = methods := if_pos h

/-- `unambiguous methods` lists the methods without parameters if there are overloads. -/
theorem unambiguous_of_overloads_ne_nil {methods : List Method} (h : overloads methods ≠ []) :
    unambiguous methods = methods.filter (·.arity = 0) := if_neg h

theorem unambiguous_subset (methods : List Method) : unambiguous methods ⊆ methods := by
  unfold unambiguous
  split
  · exact List.Subset.refl _
  · exact List.filter_sublist.subset

@[simp] theorem Method.arity_eq_zero_iff {m : Method} : m.arity = 0 ↔ m.parameterTypes = [] := by
  rw [Method.arity, List.length_eq_zero_iff]

/-- **What remains in `unambiguous methods` has one parameter list.** -/
theorem parameterTypes_eq_of_mem_unambiguous {methods : List Method} {m n : Method}
    (hm : m ∈ unambiguous methods) (hn : n ∈ unambiguous methods) :
    m.parameterTypes = n.parameterTypes := by
  by_cases ho : overloads methods = []
  · rw [unambiguous_of_overloads_eq_nil ho] at hm hn
    exact (overloads_eq_nil_iff.1 ho m hm n hn).2
  · rw [unambiguous_of_overloads_ne_nil ho, List.mem_filter] at hm hn
    have hm0 : m.parameterTypes = [] := by simpa using hm.2
    have hn0 : n.parameterTypes = [] := by simpa using hn.2
    rw [hm0, hn0]

/-- As soon as one method has no parameters, `unambiguous methods` lists those without
parameters. -/
theorem unambiguous_eq_filter {methods : List Method} {m : Method} (hm : m ∈ methods)
    (h0 : m.parameterTypes = []) : unambiguous methods = methods.filter (·.arity = 0) := by
  by_cases ho : overloads methods = []
  · rw [unambiguous_of_overloads_eq_nil ho]
    refine (List.filter_eq_self.2 fun n hn => ?_).symm
    have hsame : m.SameSignature n := overloads_eq_nil_iff.1 ho m hm n hn
    have hn0 : n.parameterTypes = [] := by rw [← hsame.2, h0]
    simpa using hn0
  · exact unambiguous_of_overloads_ne_nil ho

/-- `unambiguous methods` lists the methods without parameters if there are any. -/
theorem unambiguous_eq_filter_of_ne_nil {methods : List Method}
    (h : methods.filter (·.arity = 0) ≠ []) :
    unambiguous methods = methods.filter (·.arity = 0) := by
  obtain ⟨m, hm⟩ := List.exists_mem_of_ne_nil _ h
  rw [List.mem_filter] at hm
  exact unambiguous_eq_filter hm.1 (by simpa using hm.2)

/-! ## Override chains -/

/-- A chain of `overrideChains methods` consists of methods of the list. -/
theorem mem_of_mem_overrideChains {methods chain : List Method} {m : Method}
    (hc : chain ∈ overrideChains methods) (hm : m ∈ chain) : m ∈ methods := by
  unfold overrideChains at hc
  obtain ⟨r, -, rfl⟩ := List.mem_map.1 (List.mem_filter.1 hc).1
  exact (List.mem_filter.1 hm).1

/-- `SameSignature` is symmetric. -/
theorem Method.SameSignature.symm {m n : Method} (h : m.SameSignature n) : n.SameSignature m :=
  ⟨h.1.symm, h.2.symm⟩

/-- `SameSignature` is transitive. -/
theorem Method.SameSignature.trans {m n k : Method} (h : m.SameSignature n)
    (h' : n.SameSignature k) : m.SameSignature k :=
  ⟨h.1.trans h'.1, h.2.trans h'.2⟩

/-- `m` has a signature of its own among `methods` if no other of them has it. -/
def Method.HasOwnSignature (m : Method) (methods : List Method) : Prop :=
  ∀ n ∈ methods, n.SameSignature m → n = m

/-- **The methods in `overrideChains methods`** are those whose signature another method has. -/
theorem mem_flatten_overrideChains_iff {methods : List Method} (hnodup : methods.Nodup)
    {m : Method} :
    m ∈ (overrideChains methods).flatten ↔ m ∈ methods ∧ ¬ m.HasOwnSignature methods := by
  have hother : ¬ m.HasOwnSignature methods ↔ ∃ n ∈ methods, n.SameSignature m ∧ n ≠ m := by
    unfold Method.HasOwnSignature
    simp only [Classical.not_forall, exists_prop]
  rw [hother, List.mem_flatten]
  unfold overrideChains
  simp only [List.mem_filter, List.mem_map, decide_eq_true_eq]
  constructor
  · rintro ⟨chain, ⟨⟨r, -, rfl⟩, hlen⟩, hm⟩
    -- A chain of one method is no chain, so there is another with its signature.
    obtain ⟨n, hn, hne⟩ := (one_lt_length_iff_exists_ne (hnodup.filter _) hm).1 hlen
    obtain ⟨hmem, hrm⟩ := List.mem_filter.1 hm
    obtain ⟨hnmem, hrn⟩ := List.mem_filter.1 hn
    rw [decide_eq_true_eq] at hrm hrn
    exact ⟨hmem, n, hnmem, hrn.symm.trans hrm, hne⟩
  · rintro ⟨hmem, n, hnmem, hnm, hne⟩
    -- The chain goes by the first method of the signature, which can be a third one.
    obtain ⟨r, hr, hkey⟩ := exists_mem_distinctOn (f := Method.signatureKey) hmem
    have hrm : r.SameSignature m := Method.signatureKey_eq_iff.1 hkey
    have hm : m ∈ methods.filter (r.SameSignature ·) :=
      List.mem_filter.2 ⟨hmem, decide_eq_true hrm⟩
    have hn : n ∈ methods.filter (r.SameSignature ·) :=
      List.mem_filter.2 ⟨hnmem, decide_eq_true (hrm.trans hnm.symm)⟩
    refine ⟨_, ⟨⟨r, hr, rfl⟩, ?_⟩, hm⟩
    exact (one_lt_length_iff_exists_ne (hnodup.filter _) hm).2 ⟨n, hn, hne⟩

/-- `m`, with a signature of its own, is overloaded exactly if there is another method. -/
theorem overloads_ne_nil_iff_exists_ne {methods : List Method} {m : Method} (hm : m ∈ methods)
    (hown : m.HasOwnSignature methods) : overloads methods ≠ [] ↔ ∃ n ∈ methods, n ≠ m := by
  rw [ne_eq, overloads_eq_nil_iff]
  constructor
  · intro h
    refine Classical.byContradiction fun hnone => h fun a ha b hb => ?_
    have hall : ∀ n ∈ methods, n = m := fun n hn =>
      Classical.byContradiction fun hne => hnone ⟨n, hn, hne⟩
    rw [hall a ha, hall b hb]
    exact ⟨rfl, rfl⟩
  · rintro ⟨n, hn, hne⟩ h
    exact hne (hown n hn (h n hn m hm))

/-! ## The most specific method -/

namespace TypeHierarchy

variable {h : TypeHierarchy}

/-- `h.preferSpecific m n` is `m` or `n`. -/
theorem preferSpecific_eq_or (h : TypeHierarchy) (m n : Method) :
    h.preferSpecific m n = m ∨ h.preferSpecific m n = n := by
  unfold preferSpecific
  split
  · exact .inr rfl
  · exact .inl rfl

/-- The choice by `h.preferSpecific` is the method `m` to start with or one of the list `l` that is
run through. -/
theorem foldl_preferSpecific_mem (h : TypeHierarchy) (m : Method) (l : List Method) :
    l.foldl h.preferSpecific m = m ∨ l.foldl h.preferSpecific m ∈ l := by
  induction l generalizing m with
  | nil => exact .inl rfl
  | cons n l ih =>
    rw [List.foldl_cons]
    rcases ih (h.preferSpecific m n) with hf | hf
    · rw [hf]
      rcases h.preferSpecific_eq_or m n with hp | hp
      · exact .inl hp
      · rw [hp]; exact .inr List.mem_cons_self
    · exact .inr (List.mem_cons_of_mem _ hf)

/-- **`h.mostSpecific? l` is one of the list.** -/
theorem mem_of_mostSpecific? {l : List Method} {m : Method} (hm : h.mostSpecific? l = some m) :
    m ∈ l := by
  cases l with
  | nil => simp [mostSpecific?] at hm
  | cons n l =>
    obtain rfl : l.foldl h.preferSpecific n = m := by simpa [mostSpecific?] using hm
    rcases h.foldl_preferSpecific_mem n l with hf | hf
    · rw [hf]; exact List.mem_cons_self
    · exact List.mem_cons_of_mem _ hf

/-- `h.mostSpecific? l` is there if `l ≠ []`. -/
theorem exists_mostSpecific? (h : TypeHierarchy) {l : List Method} (hl : l ≠ []) :
    ∃ m, h.mostSpecific? l = some m :=
  Option.ne_none_iff_exists'.1 fun hnone => hl (mostSpecific?_eq_none.1 hnone)

/-- `l ≠ []` if `h.mostSpecific? l` is there. -/
theorem ne_nil_of_mostSpecific? {l : List Method} {m : Method}
    (hm : h.mostSpecific? l = some m) : l ≠ [] := by
  rintro rfl
  exact absurd hm (by simp [mostSpecific?])

/-- **`h.mostSpecific? (l ++ r)`** goes on from the most specific method of `l`. -/
theorem mostSpecific?_append {l r : List Method} {m : Method} (hm : h.mostSpecific? l = some m) :
    h.mostSpecific? (l ++ r) = some (r.foldl h.preferSpecific m) := by
  cases l with
  | nil => simp [mostSpecific?] at hm
  | cons n l =>
    obtain rfl : l.foldl h.preferSpecific n = m := by simpa [mostSpecific?] using hm
    rw [List.cons_append, mostSpecific?, List.foldl_append]

/-- `h.mostSpecific? (l ++ r)` is that of `l` or falls into `r`. -/
theorem mostSpecific?_append_eq_or {l r : List Method} {m top : Method}
    (hm : h.mostSpecific? l = some m) (ht : h.mostSpecific? (l ++ r) = some top) :
    top = m ∨ top ∈ r := by
  rw [mostSpecific?_append hm, Option.some.injEq] at ht
  rw [← ht]
  exact h.foldl_preferSpecific_mem m r

end TypeHierarchy

end AccessorSchema
