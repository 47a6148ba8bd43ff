import AccessorSchema.Collection.Unseen

/-!
# Breadth-first visits of a finite graph

A **`FiniteGraph α`** gives every element a list of successors, of which only finitely many
elements have any; cycles are allowed. **`FiniteGraph.visit g a`** lists what can be reached from
`a`, each element once, in breadth-first order.

The visit ends because each element taken from the queue is either passed over, which shortens the
queue, or new: a new element with successors leaves fewer such elements unseen, and one without
leaves the queue shorter.
-/

namespace AccessorSchema

/-- Successor lists `next a` of which only those of `sources` are inhabited. -/
structure FiniteGraph (α : Type) where
  next : α → List α
  sources : List α
  next_eq_nil : ∀ a, a ∉ sources → next a = []

variable {α : Type} [DecidableEq α]

namespace FiniteGraph

/-- The elements of a queue and what they lead to, in breadth-first order and without those already
`seen`. -/
def visitFrom (g : FiniteGraph α) (seen : List α) : List α → List α
  | [] => []
  | a :: queue =>
    if a ∈ seen then visitFrom g seen queue
    else a :: visitFrom g (a :: seen) (queue ++ g.next a)
termination_by queue => (unseen g.sources seen, queue.length)
decreasing_by
  · exact Prod.Lex.right _ (by simp)
  · next hs =>
    by_cases ha : a ∈ g.sources
    · exact Prod.Lex.left _ _ (unseen_lt (List.subset_cons_self a seen) ha hs List.mem_cons_self)
    · have hle : unseen g.sources (a :: seen) ≤ unseen g.sources seen :=
        unseen_le (List.subset_cons_self a seen)
      rcases Nat.lt_or_eq_of_le hle with h | h
      · exact Prod.Lex.left _ _ h
      · rw [h, g.next_eq_nil a ha]
        exact Prod.Lex.right _ (by simp)

/-- What can be reached from `a` in `g`, the element itself first. -/
def visit (g : FiniteGraph α) (a : α) : List α := g.visitFrom [] [a]

@[simp] theorem visitFrom_nil (g : FiniteGraph α) (seen : List α) : g.visitFrom seen [] = [] := by
  rw [visitFrom]

theorem visitFrom_cons (g : FiniteGraph α) (seen : List α) (a : α) (queue : List α) :
    g.visitFrom seen (a :: queue) =
      if a ∈ seen then g.visitFrom seen queue
      else a :: g.visitFrom (a :: seen) (queue ++ g.next a) := by
  rw [visitFrom]

end FiniteGraph

end AccessorSchema
