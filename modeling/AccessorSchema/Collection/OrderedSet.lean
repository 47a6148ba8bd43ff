/-!
# Sets kept in increasing order

**`OrderedSet α`** is a finite set whose elements are listed from the smallest to the largest, each
once. The list is the set's only representation, so two sets with the same elements are equal, and
whatever is written from a set comes out in order.

* `insert`, `union`, `ofList` build sets; `∈` and `contains` ask for elements;
* **`mem_insert`**, **`mem_ofList`** — what a built set holds;
* **`OrderedSet.ext_mem`** — sets with the same elements are the same set.
-/

namespace AccessorSchema

open Std

/-- A finite set as the increasing list of its elements, `toList`. -/
structure OrderedSet (α : Type) [Ord α] where
  toList : List α
  increasing : toList.Pairwise fun a b => compare a b = .lt

namespace OrderedSet

variable {α : Type} [Ord α]

/-- Puts `a` at its place in an increasing list; if it is there already it stays. -/
def insertInto (a : α) : List α → List α
  | [] => [a]
  | b :: rest =>
    match compare a b with
    | .lt => a :: b :: rest
    | .eq => b :: rest
    | .gt => b :: insertInto a rest

instance [DecidableEq α] : DecidableEq (OrderedSet α) := fun s t =>
  decidable_of_iff (s.toList = t.toList) (by cases s; cases t; simp)

instance [Repr α] : Repr (OrderedSet α) := ⟨fun s n => reprPrec s.toList n⟩

/-- The set without elements, `∅`. -/
def empty : OrderedSet α := ⟨[], .nil⟩

instance : EmptyCollection (OrderedSet α) := ⟨empty⟩
instance : Inhabited (OrderedSet α) := ⟨empty⟩

instance : Membership α (OrderedSet α) := ⟨fun s a => a ∈ s.toList⟩

theorem mem_iff {s : OrderedSet α} {a : α} : a ∈ s ↔ a ∈ s.toList := Iff.rfl

instance [DecidableEq α] (a : α) (s : OrderedSet α) : Decidable (a ∈ s) :=
  inferInstanceAs (Decidable (a ∈ s.toList))

@[simp] theorem not_mem_empty (a : α) : ¬ a ∈ (∅ : OrderedSet α) := List.not_mem_nil

/-- Whether `a` is in `s`. -/
def contains [DecidableEq α] (s : OrderedSet α) (a : α) : Bool := decide (a ∈ s)

@[simp] theorem contains_iff [DecidableEq α] {s : OrderedSet α} {a : α} :
    s.contains a = true ↔ a ∈ s := by
  simp [contains]

/-- The number of elements of `s`. -/
def size (s : OrderedSet α) : Nat := s.toList.length

/-- Whether `s` has no element. -/
def isEmpty (s : OrderedSet α) : Bool := s.toList.isEmpty

/-- Sets are compared as their increasing lists, by `compareOn toList`. -/
instance : Ord (OrderedSet α) := ⟨compareOn toList⟩

instance [TransOrd α] : TransOrd (OrderedSet α) :=
  inferInstanceAs (TransCmp (compareOn toList))

instance [LawfulEqOrd α] : LawfulEqOrd (OrderedSet α) where
  compare_self := ReflOrd.compare_self (α := List α)
  eq_of_compare {s t} h := by
    cases s; cases t
    simpa using LawfulEqOrd.eq_of_compare (α := List α) h

variable [LawfulEqOrd α]

theorem mem_insertInto {a b : α} {l : List α} : b ∈ insertInto a l ↔ b = a ∨ b ∈ l := by
  induction l with
  | nil => simp [insertInto]
  | cons c rest ih =>
    unfold insertInto
    split
    · simp
    · next h => simp [LawfulEqOrd.eq_of_compare h]
    · simp [ih]; grind

variable [TransOrd α]

theorem increasing_insertInto {a : α} {l : List α}
    (h : l.Pairwise fun a b => compare a b = .lt) :
    (insertInto a l).Pairwise fun a b => compare a b = .lt := by
  induction l with
  | nil => simp [insertInto]
  | cons c rest ih =>
    obtain ⟨hc, hrest⟩ := List.pairwise_cons.1 h
    unfold insertInto
    split
    · next hlt =>
      refine List.pairwise_cons.2 ⟨fun b hb => ?_, h⟩
      rcases List.mem_cons.1 hb with rfl | hb
      · exact hlt
      · exact TransCmp.lt_trans hlt (hc b hb)
    · exact h
    · next hgt =>
      refine List.pairwise_cons.2 ⟨fun b hb => ?_, ih hrest⟩
      rcases mem_insertInto.1 hb with rfl | hb
      · exact OrientedCmp.lt_of_gt hgt
      · exact hc b hb

/-- Adds `a` to `s`. -/
def insert (s : OrderedSet α) (a : α) : OrderedSet α :=
  ⟨insertInto a s.toList, increasing_insertInto s.increasing⟩

/-- Adds the elements of `l` to `s`. -/
def insertMany (s : OrderedSet α) (l : List α) : OrderedSet α := l.foldl insert s

/-- The set of the elements of `l`. -/
def ofList (l : List α) : OrderedSet α := insertMany ∅ l

@[simp] theorem mem_insert {s : OrderedSet α} {a b : α} : b ∈ s.insert a ↔ b = a ∨ b ∈ s :=
  mem_insertInto

@[simp] theorem mem_insertMany {s : OrderedSet α} {l : List α} {b : α} :
    b ∈ s.insertMany l ↔ b ∈ s ∨ b ∈ l := by
  induction l generalizing s with
  | nil => simp [insertMany]
  | cons a rest ih =>
    have := ih (s := s.insert a)
    simp only [insertMany, List.foldl_cons] at this ⊢
    rw [this]; simp; grind

@[simp] theorem mem_ofList {l : List α} {b : α} : b ∈ ofList l ↔ b ∈ l := by
  simp [ofList]

omit [TransOrd α] in
/-- `s.toList` lists no element twice. -/
theorem nodup_toList (s : OrderedSet α) : s.toList.Nodup := by
  refine s.increasing.imp fun {a b} hlt heq => ?_
  rw [heq, ReflOrd.compare_self] at hlt
  exact absurd hlt (by decide)

/-- Sets `s` and `t` with the same elements are the same set. -/
theorem ext_mem {s t : OrderedSet α} (h : ∀ a, a ∈ s ↔ a ∈ t) : s = t := by
  obtain ⟨l, hl⟩ := s
  obtain ⟨m, hm⟩ := t
  simp only [mk.injEq]
  induction l generalizing m with
  | nil =>
    cases m with
    | nil => rfl
    | cons b m => exact absurd ((h b).2 List.mem_cons_self) List.not_mem_nil
  | cons a l ih =>
    cases m with
    | nil => exact absurd ((h a).1 List.mem_cons_self) List.not_mem_nil
    | cons b m =>
      have hal := List.pairwise_cons.1 hl
      have hbm := List.pairwise_cons.1 hm
      -- Each first element is in the other list, and neither can come after the other.
      have hab : a = b := by
        rcases List.mem_cons.1 ((h a).1 List.mem_cons_self) with e | ha
        · exact e
        · rcases List.mem_cons.1 ((h b).2 List.mem_cons_self) with e | hb
          · exact e.symm
          · have h₁ := hal.1 b hb
            have h₂ := hbm.1 a ha
            exact absurd (TransCmp.lt_trans h₁ h₂) (by simp [ReflOrd.compare_self])
      subst hab
      -- The first element is not repeated, so the rests have the same elements.
      refine congrArg _ (ih hal.2 m hbm.2 fun c => ?_)
      have := h c
      simp only [mem_iff, List.mem_cons] at this
      constructor
      · intro hc
        rcases this.1 (.inr hc) with rfl | hm'
        · exact absurd (hal.1 _ hc) (by simp [ReflOrd.compare_self])
        · exact hm'
      · intro hc
        rcases this.2 (.inr hc) with rfl | hl'
        · exact absurd (hbm.1 _ hc) (by simp [ReflOrd.compare_self])
        · exact hl'

end OrderedSet

end AccessorSchema
