/-!
# Counting what has not been seen

A search over finitely many elements ends because it sees more and more of them.
**`unseen sources seen`** counts the elements that are left:

* **`unseen_le`** — seeing more leaves no more of them;
* **`unseen_lt`** — seeing one of them for the first time leaves fewer.
-/

namespace AccessorSchema

variable {α : Type} [DecidableEq α]

/-- `unseen sources seen`: how many of the `sources` have not been `seen`. -/
def unseen (sources seen : List α) : Nat := sources.countP (· ∉ seen)

theorem unseen_le {sources seen seen' : List α} (h : seen ⊆ seen') :
    unseen sources seen' ≤ unseen sources seen :=
  List.countP_mono_left fun b _ hb => by
    simp only [decide_eq_true_eq] at hb ⊢
    exact fun hs => hb (h hs)

theorem unseen_lt {sources seen seen' : List α} {a : α} (h : seen ⊆ seen') (ha : a ∈ sources)
    (hs : a ∉ seen) (hs' : a ∈ seen') : unseen sources seen' < unseen sources seen := by
  induction sources with
  | nil => simp at ha
  | cons b rest ih =>
    have hle : unseen rest seen' ≤ unseen rest seen := unseen_le h
    by_cases hb : b = a
    · subst hb
      have hnew : decide (b ∉ seen) = true := by simpa using hs
      have hold : decide (b ∉ seen') = false := by simpa using hs'
      -- The element counts before and no longer afterwards; of the others no more count.
      simp only [unseen, List.countP_cons, hold, hnew] at hle ⊢
      exact Nat.lt_succ_of_le hle
    · have hlt := ih ((List.mem_cons.1 ha).resolve_left (Ne.symm hb))
      have hone : decide (b ∉ seen') = true → decide (b ∉ seen) = true := by
        simp only [decide_eq_true_eq]
        exact fun hb hs => hb (h hs)
      simp only [unseen, List.countP_cons] at hlt ⊢
      by_cases hb' : decide (b ∉ seen') = true
      · rw [if_pos hb', if_pos (hone hb')]
        omega
      · rw [if_neg hb']
        omega

end AccessorSchema
