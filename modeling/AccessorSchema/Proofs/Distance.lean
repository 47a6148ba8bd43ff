import AccessorSchema.Proofs.Subtyping
import Mathlib.Data.Nat.Find

/-!
# Visits go from near to far

A breadth-first visit lists what can be reached by increasing distance from where it starts. Its queue is
that of one level and of the next: while the elements of one level are taken from the front, what they
lead to, one step farther away, waits behind them.

* **`FiniteGraph.inSteps`**, **`FiniteGraph.Distance`** — what is reached in a number of steps, and the
  least such number;
* `FiniteGraph.exists_distance_iff` — what can be reached has a distance;
* **`FiniteGraph.Frontier`** — what holds of the queue and of what has been seen, level by level;
* **`FiniteGraph.pairwise_visit`** — a visit lists no element before a nearer one.
-/

namespace AccessorSchema

namespace FiniteGraph

variable {α : Type} {g : FiniteGraph α} {a b c : α} {i j k n : Nat}

/-! ## Distances -/

/-- `inSteps g a n`: what is reached from `a` in `n` steps along `next`. -/
def inSteps (g : FiniteGraph α) (a : α) : Nat → List α
  | 0 => [a]
  | n + 1 => (g.inSteps a n).flatMap g.next

@[simp] theorem mem_inSteps_zero : b ∈ g.inSteps a 0 ↔ b = a := List.mem_singleton

theorem mem_inSteps_succ :
    b ∈ g.inSteps a (n + 1) ↔ ∃ c ∈ g.inSteps a n, b ∈ g.next c := List.mem_flatMap

/-- What `inSteps` lists for some `n` can be reached in the sense of `Leads`, and the other way
round. -/
theorem exists_mem_inSteps_iff : (∃ n, b ∈ g.inSteps a n) ↔ g.Leads a b := by
  constructor
  · rintro ⟨n, hn⟩
    induction n generalizing b with
    | zero =>
      rw [mem_inSteps_zero.1 hn]
      exact .refl
    | succ n ih =>
      obtain ⟨c, hc, hb⟩ := mem_inSteps_succ.1 hn
      exact (ih hc).tail hb
  · intro h
    induction h with
    | refl => exact ⟨0, mem_inSteps_zero.2 rfl⟩
    | tail _ hnext ih =>
      obtain ⟨n, hn⟩ := ih
      exact ⟨n + 1, mem_inSteps_succ.2 ⟨_, hn, hnext⟩⟩

/-- **`Distance g a b n`**: `n` is the least number of steps in which `b` is reached from `a`. -/
structure Distance (g : FiniteGraph α) (a b : α) (n : Nat) : Prop where
  reached : b ∈ g.inSteps a n
  least : ∀ k, b ∈ g.inSteps a k → n ≤ k

/-- An element `b` has one distance from `a` at most. -/
theorem Distance.unique (hi : g.Distance a b i) (hj : g.Distance a b j) : i = j :=
  Nat.le_antisymm (hi.least j hj.reached) (hj.least i hi.reached)

/-- Only `a` itself is at distance `0` from `a`. -/
theorem distance_zero_iff : g.Distance a b 0 ↔ b = a :=
  ⟨fun h => mem_inSteps_zero.1 h.reached,
    fun h => ⟨mem_inSteps_zero.2 h, fun k _ => Nat.zero_le k⟩⟩

/-- **What `a` `Leads` to has a distance**, and nothing else has one. -/
theorem exists_distance_iff : (∃ n, g.Distance a b n) ↔ g.Leads a b := by
  classical
  rw [← exists_mem_inSteps_iff]
  constructor
  · rintro ⟨n, hn⟩
    exact ⟨n, hn.reached⟩
  · intro h
    exact ⟨Nat.find h, Nat.find_spec h, fun k hk => Nat.find_min' h hk⟩

/-- `Within g a n b`: `b` is reached from `a` in `n` steps or fewer. -/
def Within (g : FiniteGraph α) (a : α) (n : Nat) (b : α) : Prop := ∃ k ≤ n, b ∈ g.inSteps a k

theorem Within.mono (h : g.Within a n b) (hle : n ≤ k) : g.Within a k b :=
  have ⟨i, hi, hb⟩ := h
  ⟨i, Nat.le_trans hi hle, hb⟩

/-- A step along `next` leads from `Within` `n` to `Within` `n + 1`. -/
theorem Within.next (h : g.Within a n b) (hc : c ∈ g.next b) : g.Within a (n + 1) c :=
  have ⟨i, hi, hb⟩ := h
  ⟨i + 1, Nat.succ_le_succ hi, mem_inSteps_succ.2 ⟨b, hb, hc⟩⟩

/-! ## Levels of the queue -/

variable {seen queue level next : List α}

/-- **What holds at every step of a visit** that is at level `k`: the queue is `level ++ next`, the
rest of the level and what is known of the next one. -/
structure Frontier (g : FiniteGraph α) (a : α) (k : Nat) (seen level next : List α) : Prop where
  level_within : ∀ b ∈ level, g.Within a k b
  next_within : ∀ b ∈ next, g.Within a (k + 1) b
  /-- Whatever is nearer than `k` is among `seen`. -/
  nearer_seen : ∀ n < k, ∀ b ∈ g.inSteps a n, b ∈ seen
  /-- Whatever is reached in `k` steps is among `seen`, or waits in `level`. -/
  level_complete : ∀ b ∈ g.inSteps a k, b ∈ seen ∨ b ∈ level
  /-- What an element of `seen` leads to is among `seen` as well, or waits. -/
  closed : ∀ b ∈ seen, ∀ c ∈ g.next b, c ∈ seen ∨ c ∈ level ∨ c ∈ next

namespace Frontier

/-- A visit of `a` starts at level `0`, with `a` in `level` and nothing in `seen`. -/
theorem start (g : FiniteGraph α) (a : α) : g.Frontier a 0 [] [a] [] where
  level_within := fun _ hb => ⟨0, Nat.le_refl 0, hb⟩
  next_within := fun _ hb => absurd hb List.not_mem_nil
  nearer_seen := fun _ hn => absurd hn (Nat.not_lt_zero _)
  level_complete := fun _ hb => .inr hb
  closed := fun _ hb => absurd hb List.not_mem_nil

/-- **When `level` is empty, the visit is at level `k + 1`**, and `next` becomes the `level`. -/
theorem advance (h : g.Frontier a k seen [] next) : g.Frontier a (k + 1) seen next [] where
  level_within := h.next_within
  next_within := fun _ hb => absurd hb List.not_mem_nil
  nearer_seen := fun n hn b hb => by
    rcases Nat.lt_succ_iff_lt_or_eq.1 hn with hlt | rfl
    · exact h.nearer_seen n hlt b hb
    · exact (h.level_complete b hb).resolve_right List.not_mem_nil
  level_complete := fun b hb => by
    -- It is a step away from an element of the level that is through, which has been seen.
    obtain ⟨c, hc, hbc⟩ := mem_inSteps_succ.1 hb
    have hseen : c ∈ seen := (h.level_complete c hc).resolve_right List.not_mem_nil
    rcases h.closed c hseen b hbc with hb | hb | hb
    · exact .inl hb
    · exact absurd hb List.not_mem_nil
    · exact .inr hb
  closed := fun b hb c hc => by
    rcases h.closed b hb c hc with hc | hc | hc
    · exact .inl hc
    · exact absurd hc List.not_mem_nil
    · exact .inr (.inl hc)

/-- The front `b` of the queue belongs to the level that the visit is at, or to the next one if
`level` is empty. -/
theorem exists_level (h : g.Frontier a k seen level next) (hqueue : level ++ next = b :: queue) :
    ∃ k level' next', queue = level' ++ next' ∧ g.Frontier a k seen (b :: level') next' := by
  cases level with
  | nil =>
    obtain rfl : next = b :: queue := hqueue
    exact ⟨k + 1, queue, [], (List.append_nil queue).symm, h.advance⟩
  | cons c level =>
    obtain ⟨rfl, rfl⟩ := List.cons.inj hqueue
    exact ⟨k, level, next, rfl, h⟩

/-- An element of `level` that is among `seen` is passed over. -/
theorem skip (h : g.Frontier a k seen (b :: level) next) (hb : b ∈ seen) :
    g.Frontier a k seen level next where
  level_within := fun c hc => h.level_within c (List.mem_cons_of_mem b hc)
  next_within := h.next_within
  nearer_seen := h.nearer_seen
  level_complete := fun c hc => by
    rcases h.level_complete c hc with hc | hc
    · exact .inl hc
    · rcases List.mem_cons.1 hc with rfl | hc
      · exact .inl hb
      · exact .inr hc
  closed := fun c hc d hd => by
    rcases h.closed c hc d hd with hd | hd | hd
    · exact .inl hd
    · rcases List.mem_cons.1 hd with rfl | hd
      · exact .inl hb
      · exact .inr (.inl hd)
    · exact .inr (.inr hd)

/-- **What a new `b` leads to waits behind `next`**, and `b` joins `seen`. -/
theorem take (h : g.Frontier a k seen (b :: level) next) :
    g.Frontier a k (b :: seen) level (next ++ g.next b) where
  level_within := fun c hc => h.level_within c (List.mem_cons_of_mem b hc)
  next_within := fun c hc => by
    rcases List.mem_append.1 hc with hc | hc
    · exact h.next_within c hc
    · exact (h.level_within b List.mem_cons_self).next hc
  nearer_seen := fun n hn c hc => List.mem_cons_of_mem b (h.nearer_seen n hn c hc)
  level_complete := fun c hc => by
    rcases h.level_complete c hc with hc | hc
    · exact .inl (List.mem_cons_of_mem b hc)
    · rcases List.mem_cons.1 hc with rfl | hc
      · exact .inl List.mem_cons_self
      · exact .inr hc
  closed := fun c hc d hd => by
    rcases List.mem_cons.1 hc with rfl | hc
    · exact .inr (.inr (List.mem_append_right _ hd))
    · rcases h.closed c hc d hd with hd | hd | hd
      · exact .inl (List.mem_cons_of_mem b hd)
      · rcases List.mem_cons.1 hd with rfl | hd
        · exact .inl List.mem_cons_self
        · exact .inr (.inl hd)
      · exact .inr (.inr (List.mem_append_left _ hd))

end Frontier

/-! ## The order of a visit -/

variable [DecidableEq α]

/-- `visitFrom seen queue` lists nothing of `seen`. -/
theorem not_mem_seen_of_mem_visitFrom (h : b ∈ g.visitFrom seen queue) : b ∉ seen := by
  fun_induction g.visitFrom seen queue with
  | case1 => exact absurd h List.not_mem_nil
  | case2 seen c queue _ ih => exact ih h
  | case3 seen c queue hc ih =>
    rcases List.mem_cons.1 h with rfl | h
    · exact hc
    · exact fun hb => ih h (List.mem_cons_of_mem c hb)

/-- **A visit at a `Frontier` goes on from near to far**: an element is reached in as many steps as
those that `visitFrom` lists after it, or in fewer. -/
theorem Frontier.pairwise_visitFrom (h : g.Frontier a k seen level next)
    (hqueue : level ++ next = queue) :
    (g.visitFrom seen queue).Pairwise fun b c => ∀ n, c ∈ g.inSteps a n → g.Within a n b := by
  fun_induction g.visitFrom seen queue generalizing k level next with
  | case1 => exact .nil
  | case2 seen b queue hb ih =>
    obtain ⟨k, level, next, rfl, hfrontier⟩ := h.exists_level hqueue
    exact ih (hfrontier.skip hb) rfl
  | case3 seen b queue hb ih =>
    obtain ⟨k, level, next, rfl, hfrontier⟩ := h.exists_level hqueue
    refine List.pairwise_cons.2 ⟨fun c hc n hn => ?_, ?_⟩
    · -- What is listed later is new, and so it is not nearer than the level.
      have hnew : c ∉ b :: seen := not_mem_seen_of_mem_visitFrom hc
      have hle : k ≤ n := Nat.le_of_not_lt fun hlt =>
        hnew (List.mem_cons_of_mem b (hfrontier.nearer_seen n hlt c hn))
      exact (hfrontier.level_within b List.mem_cons_self).mono hle
    · exact ih hfrontier.take (List.append_assoc _ _ _).symm

/-- **`visit` lists no element before a nearer one**, in the sense of `Distance`. -/
theorem pairwise_visit (g : FiniteGraph α) (a : α) :
    (g.visit a).Pairwise fun b c => ∀ i j, g.Distance a b i → g.Distance a c j → i ≤ j := by
  have hvisit := (Frontier.start g a).pairwise_visitFrom (List.append_nil [a])
  refine hvisit.imp fun {b c} h i j hi hj => ?_
  obtain ⟨k, hle, hk⟩ := h j hj.reached
  exact Nat.le_trans (hi.least k hk) hle

end FiniteGraph

end AccessorSchema
