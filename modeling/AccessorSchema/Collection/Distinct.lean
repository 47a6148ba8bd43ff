/-!
# First occurrences

**`distinctOn f l`** keeps of each group of elements with one value of `f` the first; **`distinct`**
keeps of equal elements the first. The order of the list is kept.
-/

namespace AccessorSchema

variable {α β : Type}

/-- The first element of the list for each value of `f`, in the order of the list. -/
def distinctOn [DecidableEq β] (f : α → β) : List α → List α
  | [] => []
  | a :: rest => a :: (distinctOn f rest).filter fun b => f b ≠ f a

/-- `distinct l` is `l` without later repetitions. -/
def distinct [DecidableEq α] (l : List α) : List α := distinctOn id l

@[simp] theorem distinctOn_nil [DecidableEq β] (f : α → β) : distinctOn f [] = [] := rfl

theorem distinctOn_cons [DecidableEq β] (f : α → β) (a : α) (l : List α) :
    distinctOn f (a :: l) = a :: (distinctOn f l).filter fun b => f b ≠ f a := rfl

@[simp] theorem mem_distinct [DecidableEq α] {a : α} {l : List α} : a ∈ distinct l ↔ a ∈ l := by
  induction l with
  | nil => rfl
  | cons b l ih =>
    have ih : a ∈ distinctOn id l ↔ a ∈ l := ih
    simp only [distinct, distinctOn_cons, List.mem_cons, List.mem_filter, id, ih]
    by_cases h : a = b <;> simp [h]

end AccessorSchema
