import AccessorSchema.Method
import AccessorSchema.Proofs.TextBytes
import Mathlib.Data.Finset.Card
import Mathlib.Data.List.Induction

/-!
# The order of methods, and sets of methods

Methods are ordered by the first of their parts in which they differ, and each part is ordered like a word:
names and types by their bytes, parameter lists by their types, sets of markers by their increasing lists.
A set of methods is the list of its elements in that order.

* **`Method.Precedes`** — one method stands before another;
* **`Method.compare_eq_lt_iff`** — methods are compared so;
* **`TotallyCompared`** — what a comparison has to be for sets to be listed by it;
* **`OrderedSet.mem_afterAdditions`** — what a set holds after any additions;
* **`OrderedSet.ListsInOrder`** — a set that lists what it was given, each once and in order;
* **`methods_ordered_and_listed`** — methods are totally ordered, and sets of methods list them so.
-/

namespace AccessorSchema

open Std

/-! ## Parts of methods -/

/-- **Lists are compared like words.** Where elements are compared as their values of `form` are,
lists are compared as the lists of these values. -/
theorem compare_list_eq_lt_iff {α β : Type} [Ord α] [LawfulEqOrd α] [LT β] {form : α → β}
    (hform : Function.Injective form) (hlt : ∀ a b, compare a b = .lt ↔ form a < form b)
    {l l' : List α} : compare l l' = .lt ↔ l.map form < l'.map form := by
  induction l generalizing l' with
  | nil =>
    cases l' with
    | nil => simp
    | cons b l' => simp
  | cons a l ih =>
    cases l' with
    | nil => simp
    | cons b l' =>
      rw [List.compare_cons_cons, Ordering.then_eq_lt, LawfulEqOrd.compare_eq_iff_eq, hlt, ih,
        List.map_cons, List.map_cons, List.cons_lt_cons_iff, hform.eq_iff]

namespace Marker

/-- Different markers have different values of `rank`. -/
theorem rank_injective : Function.Injective rank := by
  intro k k' h
  cases k <;> cases k' <;> simp_all [rank]

/-- Markers are compared by `rank`. -/
theorem compare_eq_lt_iff {k k' : Marker} : compare k k' = .lt ↔ k.rank < k'.rank :=
  Nat.compare_eq_lt

end Marker

/-- Lists of types are compared as the lists of their `textBytes`. -/
theorem compare_types_eq_lt_iff {l l' : List TypeName} :
    compare l l' = .lt ↔ l.map textBytes < l'.map textBytes :=
  compare_list_eq_lt_iff (fun _ _ => textBytes_inj.1) fun _ _ => textBytes_lt_iff.symm

/-- Sets of markers are compared as the lists of their values of `rank`. -/
theorem compare_markers_eq_lt_iff {s t : OrderedSet Marker} :
    compare s t = .lt ↔ s.toList.map Marker.rank < t.toList.map Marker.rank :=
  compare_list_eq_lt_iff Marker.rank_injective fun _ _ => Marker.compare_eq_lt_iff

/-! ## Methods -/

namespace Method

/-- **`Precedes m n`**: the methods agree in some parts, and the next part of `m` is smaller. -/
inductive Precedes (m n : Method) : Prop
  | name (smaller : textBytes m.name < textBytes n.name)
  | declaringType (name : m.name = n.name)
      (smaller : textBytes m.declaringType < textBytes n.declaringType)
  | returnType (name : m.name = n.name) (declaringType : m.declaringType = n.declaringType)
      (smaller : textBytes m.returnType < textBytes n.returnType)
  | parameterTypes (name : m.name = n.name) (declaringType : m.declaringType = n.declaringType)
      (returnType : m.returnType = n.returnType)
      (smaller : m.parameterTypes.map textBytes < n.parameterTypes.map textBytes)
  | markers (name : m.name = n.name) (declaringType : m.declaringType = n.declaringType)
      (returnType : m.returnType = n.returnType) (parameterTypes : m.parameterTypes = n.parameterTypes)
      (smaller : m.markers.toList.map Marker.rank < n.markers.toList.map Marker.rank)

/-- **`compare` puts a method before another exactly if it `Precedes` it**, by the first part in
which they differ. -/
theorem compare_eq_lt_iff {m n : Method} : compare m n = .lt ↔ m.Precedes n := by
  show order m n = .lt ↔ _
  simp only [order, compareLex, compareOn, Ordering.then_eq_lt, LawfulEqOrd.compare_eq_iff_eq,
    ← textBytes_lt_iff, compare_types_eq_lt_iff, compare_markers_eq_lt_iff]
  constructor
  · rintro (h | ⟨hname, h | ⟨htype, h | ⟨hreturn, h | ⟨hparams, h⟩⟩⟩⟩)
    · exact .name h
    · exact .declaringType hname h
    · exact .returnType hname htype h
    · exact .parameterTypes hname htype hreturn h
    · exact .markers hname htype hreturn hparams h
  · intro h
    cases h with
    | name h => exact .inl h
    | declaringType hname h => exact .inr ⟨hname, .inl h⟩
    | returnType hname htype h => exact .inr ⟨hname, .inr ⟨htype, .inl h⟩⟩
    | parameterTypes hname htype hreturn h =>
      exact .inr ⟨hname, .inr ⟨htype, .inr ⟨hreturn, .inl h⟩⟩⟩
    | markers hname htype hreturn hparams h =>
      exact .inr ⟨hname, .inr ⟨htype, .inr ⟨hreturn, .inr ⟨hparams, h⟩⟩⟩⟩

end Method

/-- **`TotallyCompared α`**: any two elements are comparable, smaller than smaller is smaller, and
none but equal elements tie. -/
structure TotallyCompared (α : Type) [Ord α] : Prop where
  total : ∀ a b : α, (compare a b).isLE = true ∨ (compare b a).isLE = true
  trans : ∀ a b c : α, (compare a b).isLE = true → (compare b c).isLE = true → (compare a c).isLE = true
  antisymm : ∀ a b : α, (compare a b).isLE = true → (compare b a).isLE = true → a = b
  eq_iff : ∀ a b : α, compare a b = .eq ↔ a = b

/-- A comparison with `TransOrd` and `LawfulEqOrd` puts everything into one order. -/
theorem totallyCompared (α : Type) [Ord α] [TransOrd α] [LawfulEqOrd α] : TotallyCompared α where
  total a b := by
    rw [OrientedOrd.eq_swap (a := b) (b := a)]
    cases compare a b <;> decide
  trans a b c hab hbc := TransOrd.isLE_trans hab hbc
  antisymm a b hab hba := LawfulEqOrd.eq_of_compare (OrientedCmp.isLE_antisymm hab hba)
  eq_iff a b := LawfulEqOrd.compare_eq_iff_eq

/-! ## Sets -/

namespace OrderedSet

/-- What can be done to a set: an element is inserted by `insert`, or a list of them by `extend`. -/
inductive Addition (α : Type)
  | insert (a : α)
  | extend (l : List α)

/-- `elements`: what an addition gives. -/
def Addition.elements {α : Type} : Addition α → List α
  | .insert a => [a]
  | .extend l => l

variable {α : Type} [Ord α] [LawfulEqOrd α] [TransOrd α] {s : OrderedSet α} {a : α}
  {steps steps' : List (Addition α)}

/-- `add s step`: the set after one addition. -/
def add (s : OrderedSet α) : Addition α → OrderedSet α
  | .insert a => s.insert a
  | .extend l => s.insertMany l

/-- `afterAdditions steps`: the set after additions one after another, beginning with `∅`. -/
def afterAdditions (steps : List (Addition α)) : OrderedSet α := steps.foldl add ∅

/-- **What `add` does**: the `elements` given join those that are there. -/
theorem mem_add {step : Addition α} : a ∈ s.add step ↔ a ∈ s ∨ a ∈ step.elements := by
  cases step with
  | insert b =>
    show a ∈ s.insert b ↔ _
    rw [mem_insert, Addition.elements, List.mem_singleton, or_comm]
  | extend l => exact mem_insertMany

/-- **The set `afterAdditions` holds what it has been given.** -/
theorem mem_afterAdditions : a ∈ afterAdditions steps ↔ a ∈ steps.flatMap Addition.elements := by
  induction steps using List.reverseRecOn with
  | nil => simp [afterAdditions]
  | append_singleton steps step ih =>
    have hstep : afterAdditions (steps ++ [step]) = (afterAdditions steps).add step := by
      rw [afterAdditions, List.foldl_append]
      rfl
    rw [hstep, mem_add, ih, List.flatMap_append, List.mem_append, List.flatMap_singleton]

omit [TransOrd α] in
/-- The `size` of a set of the elements of a list is the number of different ones in the list. -/
theorem size_eq_card [DecidableEq α] {l : List α} (h : ∀ a, a ∈ s ↔ a ∈ l) :
    s.size = l.toFinset.card := by
  have hsame : s.toList.toFinset = l.toFinset := by
    ext a
    rw [List.mem_toFinset, List.mem_toFinset, ← mem_iff, h]
  rw [← hsame, List.toFinset_card_of_nodup s.nodup_toList, size]

/-- By `afterAdditions`, additions of the same elements lead to the same set. -/
theorem afterAdditions_eq_iff : afterAdditions steps = afterAdditions steps' ↔
    ∀ a, a ∈ steps.flatMap Addition.elements ↔ a ∈ steps'.flatMap Addition.elements := by
  constructor
  · intro h a
    rw [← mem_afterAdditions, ← mem_afterAdditions, h]
  · intro h
    apply ext_mem
    intro a
    rw [mem_afterAdditions, mem_afterAdditions, h]

/-- **`ListsInOrder s before given`**: the set `s` lists what it was given, each element once and in
the order `before`. -/
structure ListsInOrder [DecidableEq α] (s : OrderedSet α) (before : α → α → Prop) (given : List α) :
    Prop where
  contains_iff : ∀ a, s.contains a = true ↔ a ∈ given
  listed_iff : ∀ a, a ∈ s.toList ↔ a ∈ given
  increasing : s.toList.Pairwise before
  size_eq : s.size = given.toFinset.card

end OrderedSet

/-- **Methods are totally ordered, and sets of methods list them in that order.** Of two methods the
one is before the other that `Precedes` it, being smaller in the first part in which they differ,
and methods that differ in no part are equal. The set `afterAdditions` contains the methods that
were added and no other; it lists them by increasing order, each once, and has as many as there are
different ones. Additions of the same methods lead to the same set. -/
theorem methods_ordered_and_listed :
    TotallyCompared Method ∧
      (∀ m n : Method, (compare m n = .lt ↔ m.Precedes n) ∧ (compare m n = .gt ↔ n.Precedes m)) ∧
      (∀ steps : List (OrderedSet.Addition Method),
        (OrderedSet.afterAdditions steps).ListsInOrder Method.Precedes
          (steps.flatMap OrderedSet.Addition.elements)) ∧
      ∀ steps steps' : List (OrderedSet.Addition Method),
        OrderedSet.afterAdditions steps = OrderedSet.afterAdditions steps' ↔
          ∀ m, m ∈ steps.flatMap OrderedSet.Addition.elements ↔
            m ∈ steps'.flatMap OrderedSet.Addition.elements := by
  refine ⟨totallyCompared Method, fun m n => ?_, fun steps => ?_, fun steps steps' => ?_⟩
  · constructor
    · exact Method.compare_eq_lt_iff
    · rw [OrientedCmp.gt_iff_lt]
      exact Method.compare_eq_lt_iff
  · -- What the set holds decides its list, which is increasing, and with it its size.
    have hmem : ∀ m, m ∈ OrderedSet.afterAdditions steps ↔ _ := fun m => OrderedSet.mem_afterAdditions
    constructor
    · intro m
      rw [OrderedSet.contains_iff, hmem]
    · exact hmem
    · exact (OrderedSet.afterAdditions steps).increasing.imp Method.compare_eq_lt_iff.1
    · exact OrderedSet.size_eq_card hmem
  · exact OrderedSet.afterAdditions_eq_iff

end AccessorSchema
