import AccessorSchema.Proofs.Subtyping
import Mathlib.Data.List.Induction

/-!
# Searching for a supertype

Whether one type is a subtype of another can be answered without listing all supertypes: a search goes on
from direct supertypes to theirs and is over as soon as the one it looks for is among them. It answers
after finitely many iterations, however declarations repeat each other, lead in a circle or name types
that are declared nowhere, and the answer is that of subtyping.

* **`SupertypeSearch`** — the search in the middle of its work, and what one iteration does;
* **`SupertypeSearch.exists_endsAfter`** — it ends, and has found the supertype exactly if a type that a
  visit lists has it for a direct supertype;
* `TypeHierarchy.mem_directSupertypes_ofDeclarations_iff` — the direct supertypes of a type after any
  declarations;
* **`TypeHierarchy.DecidesReachability`** — what subtyping has to do with the declarations made;
* **`TypeHierarchy.ofDeclarations_decidesReachability`** — it decides reachability, whatever has been
  declared.
-/

namespace AccessorSchema

/-! ## The search -/

/-- `SupertypeSearch`: the search for a supertype in the middle of its work, with the types that
have been `seen`, and those to come in the `queue`. -/
structure SupertypeSearch where
  seen : List TypeName := []
  queue : List TypeName := []

namespace SupertypeSearch

variable (h : TypeHierarchy) (target : TypeName)

/-- One iteration, `step h target s`, which ends in an answer or goes on. A type that has been
`seen` is passed over; of a new one the `directSupertypes` wait, unless the `target` is among
them. -/
def step (s : SupertypeSearch) : Bool ⊕ SupertypeSearch :=
  match s.queue with
  | [] => .inl false
  | t :: rest =>
    if t ∈ s.seen then .inr { s with queue := rest }
    else if target ∈ h.directSupertypes t then .inl true
    else .inr { seen := t :: s.seen, queue := rest ++ h.directSupertypes t }

/-- **`EndsAfter h target n s b`**: the search that begins with `s` ends after `n` iterations, with
the answer `b`. -/
inductive EndsAfter : Nat → SupertypeSearch → Bool → Prop
  /-- The answer is there, by `step`. -/
  | answer {s : SupertypeSearch} {b : Bool} (found : s.step h target = .inl b) : EndsAfter 0 s b
  /-- One iteration, `step`, and those that follow it. -/
  | next {n : Nat} {s s' : SupertypeSearch} {b : Bool} (goesOn : s.step h target = .inr s')
      (ends : EndsAfter n s' b) : EndsAfter (n + 1) s b

variable {h target}

/-- The search has one answer at most, as `step` is a function. -/
theorem EndsAfter.unique {n k : Nat} {s : SupertypeSearch} {b b' : Bool}
    (hb : EndsAfter h target n s b) (hb' : EndsAfter h target k s b') : b = b' := by
  induction hb generalizing k with
  | answer found =>
    cases hb' with
    | answer found' => exact Sum.inl.inj (found.symm.trans found')
    | next goesOn _ => exact absurd (found.symm.trans goesOn) (by simp)
  | next goesOn _ ih =>
    cases hb' with
    | answer found' => exact absurd (found'.symm.trans goesOn) (by simp)
    | next goesOn' ends' =>
      obtain rfl := Sum.inr.inj (goesOn.symm.trans goesOn')
      exact ih ends'

/-- **The search ends, and has found the `target` exactly if a type that `visitFrom` lists has it
for a direct supertype.** -/
theorem exists_endsAfter (h : TypeHierarchy) (target : TypeName) (seen queue : List TypeName) :
    ∃ n, EndsAfter h target n ⟨seen, queue⟩
      ((h.graph.visitFrom seen queue).any fun u => decide (target ∈ h.directSupertypes u)) := by
  fun_induction h.graph.visitFrom seen queue with
  | case1 seen => exact ⟨0, .answer rfl⟩
  | case2 seen t queue ht ih =>
    obtain ⟨n, hn⟩ := ih
    exact ⟨n + 1, .next (if_pos ht) hn⟩
  | case3 seen t queue ht ih =>
    by_cases htarget : target ∈ h.directSupertypes t
    · rw [List.any_cons, decide_eq_true htarget, Bool.true_or]
      exact ⟨0, .answer ((if_neg ht).trans (if_pos htarget))⟩
    · rw [List.any_cons, decide_eq_false htarget, Bool.false_or]
      obtain ⟨n, hn⟩ := ih
      exact ⟨n + 1, .next ((if_neg ht).trans (if_neg htarget)) hn⟩

/-- **`Answers h s t b`: the test of two types.** A type is its own subtype, and for another type
the search is asked. -/
def Answers (h : TypeHierarchy) (s t : TypeName) (b : Bool) : Prop :=
  (s = t ∧ b = true) ∨ (s ≠ t ∧ ∃ n, EndsAfter h t n { queue := [s] } b)

/-- For different types, `isSubtype` tells whether `t` is the direct supertype of a type that
`visit` lists. -/
theorem any_visit_eq_isSubtype {s t : TypeName} (hne : s ≠ t) :
    ((h.graph.visit s).any fun u => decide (t ∈ h.directSupertypes u)) = h.isSubtype s t := by
  rw [Bool.eq_iff_iff, List.any_eq_true, TypeHierarchy.isSubtype_iff]
  constructor
  · rintro ⟨u, hu, ht⟩
    exact (FiniteGraph.mem_visit_iff.1 hu).tail (of_decide_eq_true ht)
  · intro hst
    rcases Relation.ReflTransGen.cases_tail hst with heq | ⟨u, hu, ht⟩
    · exact absurd heq.symm hne
    · exact ⟨u, FiniteGraph.mem_visit_iff.2 hu, decide_eq_true ht⟩

/-- **The test `Answers` in one way, and this is `isSubtype`.** -/
theorem answers_iff {s t : TypeName} {b : Bool} : Answers h s t b ↔ h.isSubtype s t = b := by
  by_cases heq : s = t
  · subst heq
    have hself : h.isSubtype s s = true := TypeHierarchy.isSubtype_iff.2 .refl
    simp [Answers, hself, eq_comm]
  · obtain ⟨n, hn⟩ := exists_endsAfter h t [] [s]
    have hanswer : EndsAfter h t n { queue := [s] } (h.isSubtype s t) := by
      rw [← any_visit_eq_isSubtype heq]
      exact hn
    constructor
    · rintro (⟨heq', -⟩ | ⟨-, k, hk⟩)
      · exact absurd heq' heq
      · exact hanswer.unique hk
    · rintro rfl
      exact .inr ⟨heq, n, hanswer⟩

end SupertypeSearch

/-! ## Declarations -/

namespace TypeHierarchy

variable {h : TypeHierarchy} {sub s t u : TypeName} {supers : List TypeName}
  {calls : List (TypeName × List TypeName)}

/-- **`declare` adds the supertypes to those of its type**, and leaves other types alone. -/
theorem directSupertypes_declare (h : TypeHierarchy) (sub : TypeName) (supers : List TypeName)
    (s : TypeName) :
    (h.declare sub supers).directSupertypes s =
      h.directSupertypes s ++ if s = sub then supers else [] := by
  by_cases hs : s = sub
  · simp [directSupertypes, declare, hs]
  · simp [directSupertypes, declare, hs, Ne.symm hs]

/-- `DeclaredAbove calls s t`: one of the declarations made by `calls` gives `s` the supertype
`t`. -/
def DeclaredAbove (calls : List (TypeName × List TypeName)) (s t : TypeName) : Prop :=
  ∃ supers, (s, supers) ∈ calls ∧ t ∈ supers

/-- **The `directSupertypes` of a type are those it has been declared with**, in whichever of the
`calls`. -/
theorem mem_directSupertypes_ofDeclarations_iff :
    t ∈ (ofDeclarations calls).directSupertypes s ↔ DeclaredAbove calls s t := by
  induction calls using List.reverseRecOn with
  | nil => simp [ofDeclarations, directSupertypes, DeclaredAbove]
  | append_singleton calls d ih =>
    obtain ⟨sub, supers⟩ := d
    have hdeclare : ofDeclarations (calls ++ [(sub, supers)]) =
        (ofDeclarations calls).declare sub supers := by
      rw [ofDeclarations, List.foldl_append]
      rfl
    rw [hdeclare, directSupertypes_declare, List.mem_append, ih]
    simp only [DeclaredAbove, List.mem_append, List.mem_singleton, Prod.mk.injEq]
    by_cases hs : s = sub
    · simp [hs, or_and_right, exists_or]
    · simp [hs]

/-- A further `declare` takes no supertype away. -/
theorem isSubtype_declare (hst : h.isSubtype s t = true) :
    (h.declare sub supers).isSubtype s t = true := by
  refine isSubtype_iff.2 (Relation.ReflTransGen.mono (fun a b hb => ?_) _ _ (isSubtype_iff.1 hst))
  show b ∈ (h.declare sub supers).directSupertypes a
  rw [directSupertypes_declare]
  exact List.mem_append_left _ hb

/-- **`DecidesReachability h calls`: subtyping decides reachability** by the declarations made. -/
structure DecidesReachability (h : TypeHierarchy) (calls : List (TypeName × List TypeName)) :
    Prop where
  /-- The test of two types ends, and with the answer of `isSubtype` only. -/
  answers_iff : ∀ s t b, SupertypeSearch.Answers h s t b ↔ h.isSubtype s t = b
  /-- A supertype is reached by zero or more steps of `DeclaredAbove`. -/
  isSubtype_iff : ∀ s t, h.isSubtype s t = true ↔ Relation.ReflTransGen (DeclaredAbove calls) s t
  refl : ∀ s, h.isSubtype s s = true
  trans : ∀ s t u, h.isSubtype s t = true → h.isSubtype t u = true → h.isSubtype s u = true
  isProperSubtype_iff : ∀ s t, h.isProperSubtype s t = true ↔
    s ≠ t ∧ Relation.ReflTransGen (DeclaredAbove calls) s t
  /-- What has been true stays true when `declare` adds more. -/
  declare : ∀ sub supers s t,
    (h.isSubtype s t = true → (h.declare sub supers).isSubtype s t = true) ∧
      (h.isProperSubtype s t = true → (h.declare sub supers).isProperSubtype s t = true)

/-- **Whatever has been declared, `isSubtype` is reachability**: the test of two types ends, and it
is true exactly if steps of `DeclaredAbove` lead from the one to the other. -/
theorem ofDeclarations_decidesReachability (calls : List (TypeName × List TypeName)) :
    (ofDeclarations calls).DecidesReachability calls := by
  have hreach : ∀ s t, (ofDeclarations calls).isSubtype s t = true ↔
      Relation.ReflTransGen (DeclaredAbove calls) s t := by
    intro s t
    -- A step of the graph is a declared supertype, so the two closures are one.
    have hstep : (fun a b => b ∈ (ofDeclarations calls).graph.next a) = DeclaredAbove calls :=
      funext₂ fun a b => propext mem_directSupertypes_ofDeclarations_iff
    rw [isSubtype_iff, FiniteGraph.Leads, hstep]
  exact
    { answers_iff := fun s t b => SupertypeSearch.answers_iff
      isSubtype_iff := hreach
      refl := fun s => (hreach s s).2 .refl
      trans := fun s t u => isSubtype_trans
      isProperSubtype_iff := fun s t => isProperSubtype_iff.trans (and_congr_right fun _ => hreach s t)
      declare := fun sub supers s t => by
        refine ⟨isSubtype_declare, fun hst => ?_⟩
        obtain ⟨hne, hsub⟩ := isProperSubtype_iff.1 hst
        exact isProperSubtype_iff.2 ⟨hne, isSubtype_declare hsub⟩ }

end TypeHierarchy

end AccessorSchema
