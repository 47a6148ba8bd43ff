import AccessorSchema.Proofs.Conflict
import Mathlib.Data.List.Induction
import Mathlib.Data.List.Nodup

/-!
# Lists of methods, by signature

Override chains and overloads can be collected in one run over a list. For override chains every method
joins the chain that begins with its signature, or begins one, and in the end those of one method are left
out; for overloads a method is kept if none with its signature has been kept before. In either case it is
the signatures, in the order in which they first occur, that the outcome goes by.

* **`addToChains`**, **`addSignature`** — what is done with one method;
* **`foldl_addToChains`**, `foldl_addSignature` — what has been collected after any number of them;
* **`ChainsOf`** — the chains of a list: all methods of a signature, for every signature that occurs more
  than once;
* **`FirstsOf`** — the first methods of a list: one for each signature;
* **`conflicts_classified`** — the chains and overloads of a list are these, and when there are none.
-/

namespace AccessorSchema

variable {methods firsts : List Method} {m r : Method}

/-! ## The collection -/

/-- `addToChains chains m`: adds `m` to the first of the `chains` that begins with its signature; if
none does, `m` begins another. -/
def addToChains : List (List Method) → Method → List (List Method)
  | [], m => [[m]]
  | chain :: chains, m =>
    if chain.head?.any fun first => first.SameSignature m then (chain ++ [m]) :: chains
    else chain :: addToChains chains m

/-- `addSignature firsts m`: adds `m` unless there is a method with its signature. -/
def addSignature (firsts : List Method) (m : Method) : List Method :=
  if ∃ first ∈ firsts, first.SameSignature m then firsts else firsts ++ [m]

/-- `reported`: what is reported of a list; an empty one is not reported. -/
def reported {α : Type} : List α → Option (List α)
  | [] => none
  | a :: l => some (a :: l)

@[simp] theorem reported_eq_none {α : Type} {l : List α} : reported l = none ↔ l = [] := by
  cases l <;> simp [reported]

theorem reported_of_ne_nil {α : Type} {l : List α} (h : l ≠ []) : reported l = some l := by
  cases l with
  | nil => exact absurd rfl h
  | cons a l => rfl

/-- `collectChains`: the override chains, collected in one run by `addToChains`. -/
def collectChains (methods : List Method) : Option (List (List Method)) :=
  reported ((methods.foldl addToChains []).filter (1 < ·.length))

/-- `collectOverloads`: the overloads, collected in one run by `addSignature`. -/
def collectOverloads (methods : List Method) : Option (List Method) :=
  if 1 < (methods.foldl addSignature []).length then some (methods.foldl addSignature []) else none

/-! ## What one run collects -/

/-- `chainOf methods r`: all `methods` with the signature of `r`. -/
def chainOf (methods : List Method) (r : Method) : List Method :=
  methods.filter (r.SameSignature ·)

theorem mem_chainOf : m ∈ chainOf methods r ↔ m ∈ methods ∧ r.SameSignature m := by
  rw [chainOf, List.mem_filter, decide_eq_true_eq]

/-- Methods with one signature have one `chainOf`. -/
theorem chainOf_congr (hr : r.SameSignature m) : chainOf methods r = chainOf methods m := by
  refine List.filter_congr fun n _ => ?_
  rw [decide_eq_decide]
  exact ⟨hr.symm.trans, hr.trans⟩

/-- A further method ends the `chainOf` its signature. -/
theorem chainOf_concat (methods : List Method) (m r : Method) :
    chainOf (methods ++ [m]) r =
      if r.SameSignature m then chainOf methods r ++ [m] else chainOf methods r := by
  by_cases hm : r.SameSignature m
  · simp [chainOf, hm]
  · simp [chainOf, hm]

/-- Each of `firstOfEachSignature` comes first in its `chainOf`. -/
theorem head?_chainOf (hr : r ∈ firstOfEachSignature methods) :
    (chainOf methods r).head? = some r := by
  rw [chainOf, List.head?_filter, ← find?_of_mem_distinctOn hr]
  congr 1
  funext n
  rw [decide_eq_decide, Method.signatureKey_eq_iff]

/-- A signature that occurs is that of one of `firstOfEachSignature`. -/
theorem exists_firstOfEachSignature_iff :
    (∃ first ∈ firstOfEachSignature methods, first.SameSignature m) ↔
      ∃ n ∈ methods, n.SameSignature m := by
  constructor
  · rintro ⟨first, hfirst, hm⟩
    exact ⟨first, mem_of_mem_distinctOn hfirst, hm⟩
  · rintro ⟨n, hn, hm⟩
    obtain ⟨first, hfirst, hkey⟩ := exists_mem_distinctOn (f := Method.signatureKey) hn
    exact ⟨first, hfirst, (Method.signatureKey_eq_iff.1 hkey).trans hm⟩

/-- A further method joins `firstOfEachSignature` if its signature is new. -/
theorem firstOfEachSignature_concat (methods : List Method) (m : Method) :
    firstOfEachSignature (methods ++ [m]) =
      firstOfEachSignature methods ++ if ∃ n ∈ methods, n.SameSignature m then [] else [m] := by
  rw [firstOfEachSignature, distinctOn_concat]
  simp only [Method.signatureKey_eq_iff]
  rfl

/-- **The run by `addSignature` collects `firstOfEachSignature`.** -/
theorem foldl_addSignature (methods : List Method) :
    methods.foldl addSignature [] = firstOfEachSignature methods := by
  induction methods using List.reverseRecOn with
  | nil => rfl
  | append_singleton methods m ih =>
    rw [List.foldl_append, List.foldl_cons, List.foldl_nil, ih, firstOfEachSignature_concat, addSignature]
    simp only [exists_firstOfEachSignature_iff]
    split <;> simp

/-- **`addToChains` lets one method join the chain of its signature**, where every chain begins with
the method it goes by and no two of these have one signature. -/
theorem addToChains_map {f : Method → List Method} (hhead : ∀ r ∈ firsts, (f r).head? = some r)
    (hdiffer : firsts.Pairwise fun r r' => ¬ r.SameSignature r') (m : Method) :
    addToChains (firsts.map f) m =
      (firsts.map fun r => if r.SameSignature m then f r ++ [m] else f r) ++
        if ∃ r ∈ firsts, r.SameSignature m then [] else [[m]] := by
  induction firsts with
  | nil => simp [addToChains]
  | cons r firsts ih =>
    obtain ⟨hr, hfirsts⟩ := List.pairwise_cons.1 hdiffer
    have hrest := ih (fun r' hr' => hhead r' (List.mem_cons_of_mem r hr')) hfirsts
    rw [List.map_cons, addToChains, hhead r List.mem_cons_self]
    by_cases hm : r.SameSignature m
    · -- No other chain goes by the signature.
      have hother : ∀ r' ∈ firsts, ¬ r'.SameSignature m := fun r' hr' hm' =>
        hr r' hr' (hm.trans hm'.symm)
      have hmap : (firsts.map fun r => if r.SameSignature m then f r ++ [m] else f r) = firsts.map f :=
        List.map_congr_left fun r' hr' => if_neg (hother r' hr')
      simp [hm, hmap]
    · simp [hm, hrest]

/-- The methods of `firstOfEachSignature` differ in their signatures. -/
theorem pairwise_firstOfEachSignature (methods : List Method) :
    (firstOfEachSignature methods).Pairwise fun r r' => ¬ r.SameSignature r' :=
  (pairwise_ne_distinctOn Method.signatureKey methods).imp fun hne hsame =>
    hne (Method.signatureKey_eq_iff.2 hsame)

/-- **The run by `addToChains` collects the `chainOf` each signature.** -/
theorem foldl_addToChains (methods : List Method) :
    methods.foldl addToChains [] = (firstOfEachSignature methods).map (chainOf methods) := by
  induction methods using List.reverseRecOn with
  | nil => rfl
  | append_singleton methods m ih =>
    have hstep := addToChains_map (fun r hr => head?_chainOf hr)
      (pairwise_firstOfEachSignature methods) m
    rw [List.foldl_append, List.foldl_cons, List.foldl_nil, ih, hstep, firstOfEachSignature_concat,
      List.map_append]
    simp only [exists_firstOfEachSignature_iff, ← chainOf_concat]
    congr 1
    by_cases hm : ∃ n ∈ methods, n.SameSignature m
    · simp [hm]
    · -- A new signature begins a chain, and nothing could have been in it before.
      have hnone : chainOf methods m = [] := by
        refine List.filter_eq_nil_iff.2 fun n hn hnm => hm ⟨n, hn, ?_⟩
        exact (of_decide_eq_true hnm).symm
      rw [if_neg hm, if_neg hm, List.map_singleton, chainOf_concat, if_pos ⟨rfl, rfl⟩, hnone,
        List.nil_append]

/-- **`collectChains` finds the `overrideChains` in one run.** -/
theorem collectChains_eq (methods : List Method) :
    collectChains methods = reported (overrideChains methods) := by
  rw [collectChains, foldl_addToChains]
  rfl

/-- **`collectOverloads` finds the `overloads` in one run.** -/
theorem collectOverloads_eq (methods : List Method) :
    collectOverloads methods = reported (overloads methods) := by
  rw [collectOverloads, foldl_addSignature, overloads]
  by_cases hlen : 1 < (firstOfEachSignature methods).length
  · have hne : firstOfEachSignature methods ≠ [] := List.ne_nil_of_length_pos (by omega)
    rw [if_pos hlen, if_pos hlen, reported_of_ne_nil hne]
  · rw [if_neg hlen, if_neg hlen]
    rfl

/-! ## Chains and first methods -/

/-- **`ChainsOf methods chains`: the chains of a list of methods**, one for each signature that
occurs more than once. -/
structure ChainsOf (methods : List Method) (chains : List (List Method)) : Prop where
  /-- A chain is the sublist of all `methods` with the signature of one of its own. -/
  whole : ∀ chain ∈ chains, ∃ r ∈ chain, chain = methods.filter (r.SameSignature ·)
  two : ∀ chain ∈ chains, 2 ≤ chain.length
  /-- A method whose signature occurs more than once is in one of the `chains` and in no other. -/
  once : ∀ m ∈ methods, 2 ≤ methods.countP (m.SameSignature ·) → chains.countP (m ∈ ·) = 1
  /-- The `chains` stand in the order in which their first methods do. -/
  ordered : chains.Pairwise fun chain chain' => ∀ r r', chain.head? = some r →
    chain'.head? = some r' → methods.idxOf r < methods.idxOf r'

/-- **`FirstsOf methods firsts`: the first methods of a list**, one for each signature. -/
structure FirstsOf (methods firsts : List Method) : Prop where
  first : ∀ r ∈ firsts, methods.find? (r.SameSignature ·) = some r
  /-- Every method has the signature of one of `firsts`, and of no other. -/
  once : ∀ m ∈ methods, firsts.countP (m.SameSignature ·) = 1
  ordered : firsts.Pairwise fun r r' => methods.idxOf r < methods.idxOf r'

/-- In `firstOfEachSignature`, `countP` of one signature gives one. -/
theorem countP_firstOfEachSignature (hm : m ∈ methods) :
    (firstOfEachSignature methods).countP (m.SameSignature ·) = 1 := by
  rw [← countP_distinctOn_eq_one (f := Method.signatureKey) hm]
  simp only [Method.signatureKey_eq_iff]
  rfl

/-- The methods of `firstOfEachSignature` are `FirstsOf` the list. -/
theorem firstsOf_firstOfEachSignature (methods : List Method) :
    FirstsOf methods (firstOfEachSignature methods) where
  first r hr := by
    rw [← List.head?_filter]
    exact head?_chainOf hr
  once _ hm := countP_firstOfEachSignature hm
  ordered := pairwise_idxOf_distinctOn _ _

/-- The `overloads`, if there are any, are `FirstsOf` the list. -/
theorem overloads_eq_nil_or (methods : List Method) :
    overloads methods = [] ∨ FirstsOf methods (overloads methods) := by
  by_cases hlen : 1 < (firstOfEachSignature methods).length
  · rw [overloads, if_pos hlen]
    exact .inr (firstsOf_firstOfEachSignature methods)
  · exact .inl (if_neg hlen)

/-- The `overrideChains` are `chainOf` each of the first methods, without those of one method. -/
theorem overrideChains_eq (methods : List Method) :
    overrideChains methods =
      ((firstOfEachSignature methods).map (chainOf methods)).filter (1 < ·.length) := rfl

/-- The `overrideChains` are `ChainsOf` the list. -/
theorem chainsOf_overrideChains (methods : List Method) :
    ChainsOf methods (overrideChains methods) where
  whole chain hchain := by
    rw [overrideChains_eq, List.mem_filter] at hchain
    obtain ⟨r, hr, rfl⟩ := List.mem_map.1 hchain.1
    exact ⟨r, mem_chainOf.2 ⟨mem_of_mem_distinctOn hr, rfl, rfl⟩, rfl⟩
  two chain hchain := by
    rw [overrideChains_eq, List.mem_filter] at hchain
    exact of_decide_eq_true hchain.2
  once m hm htwo := by
    rw [overrideChains_eq, List.countP_filter, List.countP_map]
    refine (List.countP_congr fun r _ => ?_).trans (countP_firstOfEachSignature hm)
    simp only [Function.comp_apply, Bool.and_eq_true, decide_eq_true_eq, mem_chainOf]
    constructor
    · exact fun h => h.1.2.symm
    · -- The one chain that the method is in is long enough to be kept.
      intro hmr
      refine ⟨⟨hm, hmr.symm⟩, ?_⟩
      rw [chainOf_congr hmr.symm, chainOf, ← List.countP_eq_length_filter]
      exact htwo
  ordered := by
    rw [overrideChains_eq]
    refine List.Pairwise.sublist List.filter_sublist (List.pairwise_map.2 ?_)
    -- Chains stand in the order of the methods they go by, and each begins with its own.
    refine (pairwise_idxOf_distinctOn Method.signatureKey methods).imp_of_mem
      fun {r r'} hr hr' hlt a b ha hb => ?_
    rw [head?_chainOf hr, Option.some.injEq] at ha
    rw [head?_chainOf hr', Option.some.injEq] at hb
    rwa [← ha, ← hb]

/-- No two methods of a list have the `SameSignature` exactly if no signature is counted twice. -/
theorem pairwise_not_sameSignature_iff :
    (methods.Pairwise fun m n => ¬ m.SameSignature n) ↔
      ∀ m ∈ methods, methods.countP (m.SameSignature ·) ≤ 1 := by
  have hcount : ∀ m : Method, methods.countP (m.SameSignature ·) =
      (methods.map Method.signatureKey).count m.signatureKey := by
    intro m
    rw [List.count, List.countP_map]
    refine List.countP_congr fun n _ => ?_
    rw [Function.comp_apply, decide_eq_true_eq, beq_iff_eq, ← Method.signatureKey_eq_iff]
    exact eq_comm
  have hkeys : (methods.Pairwise fun m n => ¬ m.SameSignature n) ↔
      (methods.map Method.signatureKey).Nodup := by
    rw [List.Nodup, List.pairwise_map]
    simp only [ne_eq, Method.signatureKey_eq_iff]
  rw [hkeys, List.nodup_iff_count_le_one]
  constructor
  · intro h m _
    rw [hcount]
    exact h _
  · intro h key
    -- A key that occurs is that of a method, and others are counted zero times.
    by_cases hkey : key ∈ methods.map Method.signatureKey
    · obtain ⟨m, hm, rfl⟩ := List.mem_map.1 hkey
      rw [← hcount]
      exact h m hm
    · rw [List.count_eq_zero_of_not_mem hkey]
      exact Nat.zero_le 1

/-- **A list has no chain exactly if no two of its methods have the `SameSignature`.** -/
theorem ChainsOf.eq_nil_iff {chains : List (List Method)} (h : ChainsOf methods chains) :
    chains = [] ↔ methods.Pairwise fun m n => ¬ m.SameSignature n := by
  rw [pairwise_not_sameSignature_iff]
  constructor
  · rintro rfl m hm
    refine Nat.le_of_not_lt fun htwo => ?_
    exact absurd (h.once m hm htwo) (by simp)
  · refine fun hone => List.eq_nil_iff_forall_not_mem.2 fun chain hchain => ?_
    obtain ⟨r, hr, heq⟩ := h.whole chain hchain
    have hmem : r ∈ methods := (List.mem_filter.1 (heq ▸ hr)).1
    have htwo := h.two chain hchain
    rw [heq, ← List.countP_eq_length_filter] at htwo
    exact absurd (hone r hmem) (by omega)

/-- **Conflicts are found completely.** The `overrideChains` of a list are `ChainsOf` it, the
sublists of its repeated signatures, and there are none exactly if no signature is repeated; the
`overloads` are `FirstsOf` it, the first methods of its signatures, and there are none exactly if it
has one signature or is empty. Both are what one run over the list collects. -/
theorem conflicts_classified (methods : List Method) :
    (collectChains methods = reported (overrideChains methods) ∧
      (collectChains methods = none ↔ methods.Pairwise fun m n => ¬ m.SameSignature n) ∧
      ChainsOf methods (overrideChains methods)) ∧
    (collectOverloads methods = reported (overloads methods) ∧
      (collectOverloads methods = none ↔ ∀ m ∈ methods, ∀ n ∈ methods, m.SameSignature n) ∧
      (collectOverloads methods = none ∨ FirstsOf methods (overloads methods))) := by
  have hchains := chainsOf_overrideChains methods
  rw [collectChains_eq, collectOverloads_eq, reported_eq_none, reported_eq_none]
  exact ⟨⟨rfl, hchains.eq_nil_iff, hchains⟩, rfl, overloads_eq_nil_iff, overloads_eq_nil_or methods⟩

end AccessorSchema
