import AccessorSchema.Proofs.Conflict
import AccessorSchema.Proofs.Subtyping

/-!
# When the order of declarations matters

The most specific method is found by running through a list once. Where no two types are subtypes of
each other, being more specific is a strict order, and nothing in the list is more specific than the
method found. Which one that is can still depend on the order of the list, as long as some methods
cannot be compared:

* **`TypeHierarchy.Comparable`** — one of two methods is more specific than the other;
* **`TypeHierarchy.not_isMoreSpecific_of_mostSpecific?`** — no method of a list is more specific than
  its most specific method;
* **`TypeHierarchy.mostSpecific?_eq_of_perm`** — the order does not matter among methods that can be
  compared;
* **`TypeHierarchy.mostSpecific?_append_eq_of_perm`** — nor does it within two such lists one after
  the other, although a method of one need not be comparable with a method of the other;
* **`TypeHierarchy.mostSpecific?_minimal`** — every list that is not empty has a most specific method that
  no other beats, and a method that beats all others is found in any order.
-/

namespace AccessorSchema

namespace TypeHierarchy

variable {h : TypeHierarchy} {a b c : Method} {l l' r r' : List Method}

/-! ## Comparable methods -/

/-- **`Comparable h a b`: one of two methods is more specific than the other.** A proper subtype
declares it, or the same type declares both and one returns a proper subtype. -/
def Comparable (h : TypeHierarchy) (a b : Method) : Prop :=
  (a.declaringType ≠ b.declaringType ∧ (h.isProperSubtype a.declaringType b.declaringType = true ∨
      h.isProperSubtype b.declaringType a.declaringType = true)) ∨
    (a.declaringType = b.declaringType ∧ (h.isProperSubtype a.returnType b.returnType = true ∨
      h.isProperSubtype b.returnType a.returnType = true))

/-- Methods are `Comparable` if `isMoreSpecific` holds one way or the other. -/
theorem comparable_iff :
    h.Comparable a b ↔ h.isMoreSpecific a b = true ∨ h.isMoreSpecific b a = true := by
  unfold Comparable isMoreSpecific
  by_cases hab : a.declaringType = b.declaringType
  · simp [hab]
  · simp [hab, Ne.symm hab]

/-- `AllComparable h l`: any two different methods of `l` are `Comparable`. -/
def AllComparable (h : TypeHierarchy) (l : List Method) : Prop :=
  ∀ a ∈ l, ∀ b ∈ l, a ≠ b → h.Comparable a b

/-- What is `AllComparable` among more methods is so among fewer. -/
theorem AllComparable.mono (hl : h.AllComparable l) (hsub : l' ⊆ l) : h.AllComparable l' :=
  fun a ha b hb hne => hl a (hsub ha) b (hsub hb) hne

/-! ## A strict order -/

namespace Antisymmetric

variable (hanti : h.Antisymmetric)

include hanti

/-- Where the hierarchy is `Antisymmetric`, `isMoreSpecific` holds one way at most. -/
theorem not_isMoreSpecific (hab : h.isMoreSpecific a b = true) : ¬ h.isMoreSpecific b a = true := by
  unfold isMoreSpecific at hab ⊢
  by_cases hdecl : a.declaringType = b.declaringType
  · rw [if_pos hdecl] at hab
    rw [if_pos hdecl.symm]
    exact hanti.not_isProperSubtype hab
  · rw [if_neg hdecl] at hab
    rw [if_neg (Ne.symm hdecl)]
    exact hanti.not_isProperSubtype hab

/-- **There `isMoreSpecific` is transitive.** -/
theorem isMoreSpecific_trans (hab : h.isMoreSpecific a b = true)
    (hbc : h.isMoreSpecific b c = true) : h.isMoreSpecific a c = true := by
  -- Either step compares declaring types, unless these are equal and it compares return types.
  unfold isMoreSpecific at *
  by_cases hdecl : a.declaringType = b.declaringType
  · rw [hdecl]
    rw [if_pos hdecl] at hab
    by_cases hdecl' : b.declaringType = c.declaringType
    · rw [if_pos hdecl'] at hbc ⊢
      exact hanti.isProperSubtype_trans hab hbc
    · rw [if_neg hdecl'] at hbc ⊢
      exact hbc
  · rw [if_neg hdecl] at hab
    by_cases hdecl' : b.declaringType = c.declaringType
    · rw [← hdecl', if_neg hdecl]
      exact hab
    · -- Both steps go to another type, and antisymmetry keeps them from leading back.
      rw [if_neg hdecl'] at hbc
      have hac := hanti.isProperSubtype_trans hab hbc
      rw [if_neg (isProperSubtype_iff.1 hac).1]
      exact hac

end Antisymmetric

/-! ## Minimality -/

/-- The choice by `preferSpecific` falls on the method that is more specific. -/
theorem preferSpecific_of_isMoreSpecific (hba : h.isMoreSpecific b a = true) :
    h.preferSpecific a b = b := if_pos hba

theorem preferSpecific_of_not_isMoreSpecific (hba : ¬ h.isMoreSpecific b a = true) :
    h.preferSpecific a b = a := if_neg hba

section

variable (hanti : h.Antisymmetric)

include hanti

/-- Running through a list by `preferSpecific`, the choice stays or becomes more specific. -/
theorem foldl_preferSpecific_eq_or (a : Method) (l : List Method) :
    l.foldl h.preferSpecific a = a ∨ h.isMoreSpecific (l.foldl h.preferSpecific a) a = true := by
  induction l generalizing a with
  | nil => exact .inl rfl
  | cons b l ih =>
    rw [List.foldl_cons]
    by_cases hba : h.isMoreSpecific b a = true
    · rw [preferSpecific_of_isMoreSpecific hba]
      rcases ih b with heq | hlt
      · rw [heq]
        exact .inr hba
      · exact .inr (hanti.isMoreSpecific_trans hlt hba)
    · rw [preferSpecific_of_not_isMoreSpecific hba]
      exact ih a

/-- **Nothing that was run through is more specific than the choice** by `preferSpecific`. -/
theorem not_isMoreSpecific_foldl (hb : b ∈ a :: l) :
    ¬ h.isMoreSpecific b (l.foldl h.preferSpecific a) = true := by
  induction l generalizing a b with
  | nil =>
    rw [List.mem_singleton.1 hb]
    exact fun hlt => hanti.not_isMoreSpecific hlt hlt
  | cons c l ih =>
    rw [List.foldl_cons]
    by_cases hca : h.isMoreSpecific c a = true
    · rw [preferSpecific_of_isMoreSpecific hca]
      rcases List.mem_cons.1 hb with rfl | hb
      · -- What beats the method that was given up also beats the one it was given up for.
        exact fun hlt => ih List.mem_cons_self (hanti.isMoreSpecific_trans hca hlt)
      · exact ih hb
    · rw [preferSpecific_of_not_isMoreSpecific hca]
      rcases List.mem_cons.1 hb with rfl | hb
      · exact ih List.mem_cons_self
      rcases List.mem_cons.1 hb with rfl | hb
      · -- The choice is as specific as the first method, which was kept.
        intro hlt
        rcases foldl_preferSpecific_eq_or hanti a l with heq | hle
        · exact hca (heq ▸ hlt)
        · exact hca (hanti.isMoreSpecific_trans hlt hle)
      · exact ih (List.mem_cons_of_mem a hb)

/-- **No method of a list is more specific than the one of `mostSpecific?`.** -/
theorem not_isMoreSpecific_of_mostSpecific? (ha : h.mostSpecific? l = some a) (hb : b ∈ l) :
    ¬ h.isMoreSpecific b a = true := by
  cases l with
  | nil => exact absurd hb List.not_mem_nil
  | cons c l =>
    obtain rfl : l.foldl h.preferSpecific c = a := Option.some.inj ha
    exact not_isMoreSpecific_foldl hanti hb

/-! ## Lists of comparable methods -/

/-- Among methods that are `AllComparable` the one of `mostSpecific?` beats all others. -/
theorem isMoreSpecific_of_mostSpecific? (hl : h.AllComparable l)
    (ha : h.mostSpecific? l = some a) (hb : b ∈ l) (hne : a ≠ b) : h.isMoreSpecific a b = true :=
  (comparable_iff.1 (hl a (mem_of_mostSpecific? ha) b hb hne)).resolve_right
    (not_isMoreSpecific_of_mostSpecific? hanti ha hb)

/-- **The order of methods that are `AllComparable` does not matter** to `mostSpecific?`. -/
theorem mostSpecific?_eq_of_perm (hl : h.AllComparable l) (hperm : l.Perm l') :
    h.mostSpecific? l = h.mostSpecific? l' := by
  cases ha : h.mostSpecific? l with
  | none =>
    rw [mostSpecific?_eq_none.1 ha] at hperm
    exact (mostSpecific?_eq_none.2 hperm.nil_eq.symm).symm
  | some a =>
    have hmem : a ∈ l' := hperm.mem_iff.1 (mem_of_mostSpecific? ha)
    obtain ⟨b, hb⟩ := h.exists_mostSpecific? (List.ne_nil_of_mem hmem)
    rw [hb]
    -- Otherwise either choice would beat the other.
    refine congrArg some (Classical.byContradiction fun hne => ?_)
    have hbl : b ∈ l := hperm.mem_iff.2 (mem_of_mostSpecific? hb)
    exact not_isMoreSpecific_of_mostSpecific? hanti hb hmem
      (isMoreSpecific_of_mostSpecific? hanti hl ha hbl hne)

/-- **Going on with methods that are `AllComparable`, only the most specific of them counts.** -/
theorem foldl_preferSpecific_eq (hr : h.AllComparable r) (hc : h.mostSpecific? r = some c)
    (a : Method) : r.foldl h.preferSpecific a = h.preferSpecific a c := by
  have hbest : ∀ b ∈ r, c = b ∨ h.isMoreSpecific c b = true := fun b hb =>
    Decidable.or_iff_not_imp_left.2 (isMoreSpecific_of_mostSpecific? hanti hr hc hb)
  by_cases hca : h.isMoreSpecific c a = true
  · -- The method found is not beaten by the most specific one, which beats all others.
    rw [preferSpecific_of_isMoreSpecific hca]
    have hmin : ¬ h.isMoreSpecific c (r.foldl h.preferSpecific a) = true :=
      not_isMoreSpecific_foldl hanti (List.mem_cons_of_mem a (mem_of_mostSpecific? hc))
    rcases h.foldl_preferSpecific_mem a r with heq | hmem
    · rw [heq] at hmin
      exact absurd hca hmin
    · exact ((hbest _ hmem).resolve_right hmin).symm
  · rw [preferSpecific_of_not_isMoreSpecific hca]
    refine (foldl_preferSpecific_eq_or hanti a r).resolve_right fun hlt => ?_
    -- A method that beats `a` is one of the list, so that the most specific one beats it as well.
    rcases h.foldl_preferSpecific_mem a r with heq | hmem
    · rw [heq] at hlt
      exact hanti.not_isMoreSpecific hlt hlt
    · rcases hbest _ hmem with heq | hle
      · exact hca (heq ▸ hlt)
      · exact hca (hanti.isMoreSpecific_trans hle hlt)

/-- **Within two lists of methods that are `AllComparable` the order does not matter** to
`mostSpecific?` of both. -/
theorem mostSpecific?_append_eq_of_perm (hl : h.AllComparable l) (hr : h.AllComparable r)
    (hperm : l.Perm l') (hperm' : r.Perm r') :
    h.mostSpecific? (l ++ r) = h.mostSpecific? (l' ++ r') := by
  have hl' := mostSpecific?_eq_of_perm hanti hl hperm
  have hr' := mostSpecific?_eq_of_perm hanti hr hperm'
  cases ha : h.mostSpecific? l with
  | none =>
    rw [ha] at hl'
    rw [mostSpecific?_eq_none.1 ha, mostSpecific?_eq_none.1 hl'.symm, List.nil_append,
      List.nil_append, hr']
  | some a =>
    rw [ha] at hl'
    -- The choice among the first methods goes on with the others, of which one counts.
    rw [mostSpecific?_append ha, mostSpecific?_append hl'.symm]
    cases hc : h.mostSpecific? r with
    | none =>
      rw [hc] at hr'
      rw [mostSpecific?_eq_none.1 hc, mostSpecific?_eq_none.1 hr'.symm]
    | some c =>
      rw [hc] at hr'
      rw [foldl_preferSpecific_eq hanti hr hc,
        foldl_preferSpecific_eq hanti (hr.mono hperm'.symm.subset) hr'.symm]

end

/-! ## The method that is found -/

/-- **`Beats h a b`: a method beats another.** A proper subtype declares it, or the same type with a
proper subtype as return type. -/
def Beats (h : TypeHierarchy) (a b : Method) : Prop :=
  h.isProperSubtype a.declaringType b.declaringType = true ∨
    (a.declaringType = b.declaringType ∧ h.isProperSubtype a.returnType b.returnType = true)

/-- `isMoreSpecific` says which of two methods `Beats` the other. -/
theorem isMoreSpecific_iff_beats : h.isMoreSpecific a b = true ↔ h.Beats a b := by
  unfold isMoreSpecific Beats
  by_cases hdecl : a.declaringType = b.declaringType
  · simp [hdecl, isProperSubtype]
  · simp [hdecl]

/-- **A method that `Beats` all others is found by `mostSpecific?` in any order.** -/
theorem mostSpecific?_eq_of_beats (hanti : h.Antisymmetric) (ha : a ∈ l)
    (hbest : ∀ b ∈ l, b ≠ a → h.Beats a b) : h.mostSpecific? l = some a := by
  obtain ⟨b, hb⟩ := h.exists_mostSpecific? (List.ne_nil_of_mem ha)
  rw [hb, Option.some.injEq]
  refine Classical.byContradiction fun hne => ?_
  have hbeats : h.Beats a b := hbest b (mem_of_mostSpecific? hb) hne
  exact not_isMoreSpecific_of_mostSpecific? hanti hb ha (isMoreSpecific_iff_beats.2 hbeats)

/-- **The most specific method is minimal.** Only for the empty list `mostSpecific?` gives none, in
any hierarchy. Where the hierarchy is `Antisymmetric`, it gives one of the list that no other
`Beats`; and a method that `Beats` all others is found, whatever the order of the list. -/
theorem mostSpecific?_minimal (h : TypeHierarchy) :
    (∀ l, h.mostSpecific? l = none ↔ l = []) ∧
      (h.Antisymmetric →
        (∀ l, l ≠ [] → ∃ a ∈ l, h.mostSpecific? l = some a ∧ ∀ b ∈ l, ¬ h.Beats b a) ∧
          ∀ l, ∀ a ∈ l, (∀ b ∈ l, b ≠ a → h.Beats a b) →
            ∀ l', l'.Perm l → h.mostSpecific? l' = some a) := by
  refine ⟨fun l => mostSpecific?_eq_none, fun hanti => ⟨fun l hl => ?_, fun l a ha hbest l' hperm => ?_⟩⟩
  · obtain ⟨a, ha⟩ := h.exists_mostSpecific? hl
    refine ⟨a, mem_of_mostSpecific? ha, ha, fun b hb hbeats => ?_⟩
    exact not_isMoreSpecific_of_mostSpecific? hanti ha hb (isMoreSpecific_iff_beats.2 hbeats)
  · exact mostSpecific?_eq_of_beats hanti (hperm.mem_iff.2 ha) fun b hb =>
      hbest b (hperm.mem_iff.1 hb)

/-- The type `Sub` below `Base`, and the value type `String` below `Object`. -/
def narrowing : TypeHierarchy := .ofDeclarations [("Sub", ["Base"]), ("String", ["Object"])]

/-- A getter declared on `Sub`, on its supertype `Base`, and on `Sub` again with a narrower value
type. -/
def narrowedGetters : List Method :=
  [{ name := "getValue", declaringType := "Sub", returnType := "Object" },
    { name := "getValue", declaringType := "Base", returnType := "Object" },
    { name := "getValue", declaringType := "Sub", returnType := "String" }]

/-- **The last of `narrowedGetters` is found forwards and backwards**, and no other beats it beside
a getter that it cannot be compared with. -/
theorem narrowedGetters_decided :
    narrowing.Antisymmetric ∧
      narrowing.mostSpecific? narrowedGetters.reverse =
        some { name := "getValue", declaringType := "Sub", returnType := "String" } ∧
      ∃ a ∈ { name := "getValue", declaringType := "Other", returnType := "int" } :: narrowedGetters,
        narrowing.mostSpecific?
            ({ name := "getValue", declaringType := "Other", returnType := "int" } :: narrowedGetters) =
          some a ∧
        ∀ b ∈ { name := "getValue", declaringType := "Other", returnType := "int" } :: narrowedGetters,
          ¬ narrowing.Beats b a := by
  have hanti : narrowing.Antisymmetric :=
    antisymmetric_of_rank (fun t => if t = "Sub" ∨ t = "String" then 1 else 0) (by decide)
  have hsub : narrowing.isProperSubtype "Sub" "Base" = true :=
    isProperSubtype_iff.2 ⟨by decide, isSubtype_iff.2 (.single (by decide))⟩
  have hvalue : narrowing.isProperSubtype "String" "Object" = true :=
    isProperSubtype_iff.2 ⟨by decide, isSubtype_iff.2 (.single (by decide))⟩
  have hminimal := (mostSpecific?_minimal narrowing).2 hanti
  refine ⟨hanti, ?_, hminimal.1 _ (List.cons_ne_nil _ _)⟩
  refine hminimal.2 narrowedGetters _ (by simp [narrowedGetters]) ?_ _ (List.reverse_perm _)
  simp [narrowedGetters, Beats, hsub, hvalue]

end TypeHierarchy

end AccessorSchema
