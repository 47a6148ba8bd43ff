import AccessorSchema.Proofs.Distance
import AccessorSchema.Proofs.FirstOccurrence

/-!
# A visit level by level

What is reached from an element in no step, in one step, in two, with all repetitions, makes a row of
levels. A visit lists this row without repetitions: passing over an element that has been seen, or that
waits already, loses nothing, since what it leads to has been reached before. So of two elements the one
that turns up first in the row comes first in the visit.

* **`FiniteGraph.visitFrom_append`** — a level that waits at the front of the queue is taken as a whole;
* `FiniteGraph.visitFrom_drop` — an element need not wait twice;
* **`FiniteGraph.exists_visit_eq`** — a visit is the row of its levels without repetitions;
* **`FiniteGraph.Sooner`** — an element turns up before another in the row of levels;
* **`FiniteGraph.pairwise_sooner_visit`** — that is the order of a visit;
* `FiniteGraph.sooner_of_not_leads` — where every element has one successor at most, an element turns up
  before all that do not lead to it.
-/

namespace AccessorSchema

section Fresh

variable {α : Type} [DecidableEq α] {a : α} {seen seen' l : List α}

/-- `fresh seen l`: the elements of `l` that are not among `seen`, each at its first occurrence. -/
def fresh (seen l : List α) : List α := (distinct l).filter (· ∉ seen)

@[simp] theorem fresh_nil (seen : List α) : fresh seen [] = [] := rfl

theorem fresh_cons_of_mem (ha : a ∈ seen) : fresh seen (a :: l) = fresh seen l := by
  rw [fresh, distinct_cons, List.filter_cons_of_neg (by simpa using ha), List.filter_filter]
  refine List.filter_congr fun b _ => ?_
  by_cases hb : b ∈ seen
  · simp [hb]
  · have hne : b ≠ a := fun heq => hb (heq ▸ ha)
    simp [hb, hne]

theorem fresh_cons_of_not_mem (ha : a ∉ seen) :
    fresh seen (a :: l) = a :: fresh (a :: seen) l := by
  rw [fresh, distinct_cons, List.filter_cons_of_pos (by simpa using ha), List.filter_filter]
  refine congrArg _ (List.filter_congr fun b _ => ?_)
  rw [← Bool.decide_and]
  simp only [List.mem_cons, not_or, and_comm]

/-- For `fresh` it only matters what is among `seen`. -/
theorem fresh_congr (h : ∀ a, a ∈ seen ↔ a ∈ seen') : fresh seen l = fresh seen' l :=
  List.filter_congr fun a _ => by simp only [h a]

end Fresh

namespace FiniteGraph

variable {α : Type} {g : FiniteGraph α} {a b c : α} {n : Nat}

/-! ## Levels -/

/-- **`levels g a n`**: what is reached from `a` in fewer than `n` steps, with all repetitions. -/
def levels (g : FiniteGraph α) (a : α) (n : Nat) : List α := (List.range n).flatMap (g.inSteps a)

theorem levels_succ (g : FiniteGraph α) (a : α) (n : Nat) :
    g.levels a (n + 1) = g.levels a n ++ g.inSteps a n := by
  simp [levels, List.range_succ]

@[simp] theorem mem_levels : b ∈ g.levels a n ↔ ∃ k < n, b ∈ g.inSteps a k := by
  simp [levels]

/-- Finitely many elements that `a` `Leads` to are all within `levels g a n` for some `n`. -/
theorem exists_subset_levels {l : List α} (h : ∀ b ∈ l, g.Leads a b) : ∃ n, l ⊆ g.levels a n := by
  induction l with
  | nil => exact ⟨0, List.nil_subset _⟩
  | cons b l ih =>
    obtain ⟨k, hb⟩ := exists_mem_inSteps_iff.2 (h b List.mem_cons_self)
    obtain ⟨n, hl⟩ := ih fun c hc => h c (List.mem_cons_of_mem b hc)
    refine ⟨max n (k + 1), List.cons_subset.2 ⟨mem_levels.2 ⟨k, by omega, hb⟩, fun c hc => ?_⟩⟩
    obtain ⟨i, hi, hci⟩ := mem_levels.1 (hl hc)
    exact mem_levels.2 ⟨i, by omega, hci⟩

/-- Where `next` gives one successor at most, `inSteps` gives one element at most. -/
theorem length_inSteps_le_one (hsingle : ∀ b, (g.next b).length ≤ 1) (a : α) (n : Nat) :
    (g.inSteps a n).length ≤ 1 := by
  induction n with
  | zero => exact Nat.le_refl 1
  | succ n ih =>
    rw [inSteps]
    match hl : g.inSteps a n with
    | [] => simp
    | [b] => simpa using hsingle b
    | b :: c :: l => simp [hl] at ih

/-- **There an element of `inSteps g a i` leads to one of `inSteps g a j`** if `i ≤ j`. -/
theorem leads_of_mem_inSteps (hsingle : ∀ b, (g.next b).length ≤ 1) {i j : Nat}
    (hb : b ∈ g.inSteps a i) (hc : c ∈ g.inSteps a j) (hij : i ≤ j) : g.Leads b c := by
  induction hij generalizing c with
  | refl =>
    match hl : g.inSteps a i, g.length_inSteps_le_one hsingle a i with
    | [], _ =>
      rw [hl] at hb
      exact absurd hb List.not_mem_nil
    | [d], _ =>
      rw [hl, List.mem_singleton] at hb hc
      rw [hb, hc]
      exact .refl
  | step _ ih =>
    obtain ⟨d, hd, hnext⟩ := mem_inSteps_succ.1 hc
    exact (ih hd).tail hnext

/-! ## Visits -/

variable [DecidableEq α] {seen level next queue rest : List α}

/-- **`visitFrom` takes a `level` of the queue as a whole**: what is `fresh` of it is listed, and
what that leads to waits behind `next`. -/
theorem visitFrom_append (g : FiniteGraph α) (seen level next : List α) :
    g.visitFrom seen (level ++ next) =
      fresh seen level ++
        g.visitFrom ((fresh seen level).reverse ++ seen)
          (next ++ (fresh seen level).flatMap g.next) := by
  induction level generalizing seen next with
  | nil => simp
  | cons b level ih =>
    rw [List.cons_append, visitFrom_cons]
    by_cases hb : b ∈ seen
    · rw [if_pos hb, fresh_cons_of_mem hb]
      exact ih seen next
    · -- The element is listed, and what it leads to goes behind what waits for the next level.
      rw [if_neg hb, fresh_cons_of_not_mem hb, List.append_assoc, ih (b :: seen) (next ++ g.next b)]
      simp

/-- An element of `seen` or of `queue` need not wait again. -/
theorem visitFrom_drop (h : b ∈ seen ∨ b ∈ queue) :
    g.visitFrom seen (queue ++ b :: rest) = g.visitFrom seen (queue ++ rest) := by
  induction queue generalizing seen rest with
  | nil =>
    have hb : b ∈ seen := h.resolve_right List.not_mem_nil
    rw [List.nil_append, List.nil_append, visitFrom_cons, if_pos hb]
  | cons c queue ih =>
    rw [List.cons_append, List.cons_append, visitFrom_cons, visitFrom_cons]
    by_cases hc : c ∈ seen
    · rw [if_pos hc, if_pos hc]
      refine ih ?_
      rcases h with hb | hb
      · exact .inl hb
      · rcases List.mem_cons.1 hb with rfl | hb
        · exact .inl hc
        · exact .inr hb
    · rw [if_neg hc, if_neg hc, List.append_assoc, List.append_assoc, List.cons_append]
      -- If the front is the element itself, it has been seen from now on.
      refine congrArg _ (ih ?_)
      rcases h with hb | hb
      · exact .inl (List.mem_cons_of_mem c hb)
      · rcases List.mem_cons.1 hb with rfl | hb
        · exact .inl List.mem_cons_self
        · exact .inr hb

/-- Several such elements `l` need not wait again. -/
theorem visitFrom_drop_all {l : List α} (h : ∀ b ∈ l, b ∈ seen ∨ b ∈ queue) :
    g.visitFrom seen (queue ++ (l ++ rest)) = g.visitFrom seen (queue ++ rest) := by
  induction l with
  | nil => rfl
  | cons b l ih =>
    rw [List.cons_append, visitFrom_drop (h b List.mem_cons_self)]
    exact ih fun c hc => h c (List.mem_cons_of_mem b hc)

/-- **What `old` elements lead to need not wait again**, so that a level leads on like what is
`fresh` of it. -/
theorem visitFrom_flatMap_fresh {old l : List α}
    (h : ∀ b ∈ old, ∀ c ∈ g.next b, c ∈ seen ∨ c ∈ queue) :
    g.visitFrom seen (queue ++ (fresh old l).flatMap g.next) =
      g.visitFrom seen (queue ++ l.flatMap g.next) := by
  induction l generalizing old queue with
  | nil => rfl
  | cons b l ih =>
    by_cases hb : b ∈ old
    · rw [fresh_cons_of_mem hb, List.flatMap_cons, visitFrom_drop_all (h b hb)]
      exact ih h
    · -- Once it has led on, the element is an old one for the rest of the level.
      rw [fresh_cons_of_not_mem hb, List.flatMap_cons, List.flatMap_cons, ← List.append_assoc,
        ← List.append_assoc]
      refine ih fun c hc d hd => ?_
      rcases List.mem_cons.1 hc with rfl | hc
      · exact .inr (List.mem_append_right _ hd)
      · exact (h c hc d hd).imp_right fun hq => List.mem_append_left _ hq

/-- For every `n`, `visit` begins with `distinct (g.levels a n)`. -/
theorem visit_eq_levels_append (g : FiniteGraph α) (a : α) (n : Nat) :
    g.visit a = distinct (g.levels a n) ++
      g.visitFrom (distinct (g.levels a n)).reverse (g.inSteps a n) := by
  induction n with
  | zero => rfl
  | succ n ih =>
    have hnew : fresh (distinct (g.levels a n)).reverse (g.inSteps a n) =
        fresh (g.levels a n) (g.inSteps a n) := fresh_congr fun b => by simp
    have hdistinct : distinct (g.levels a (n + 1)) =
        distinct (g.levels a n) ++ fresh (g.levels a n) (g.inSteps a n) := by
      rw [levels_succ, distinct_append]
      rfl
    -- What the levels up to now lead to has been reached in one step more, if not before.
    have hold : ∀ b ∈ g.levels a n, ∀ c ∈ g.next b,
        c ∈ (distinct (g.levels a (n + 1))).reverse ∨ c ∈ [] := by
      intro b hb c hc
      obtain ⟨k, hk, hbk⟩ := mem_levels.1 hb
      have hck : c ∈ g.levels a (n + 1) :=
        mem_levels.2 ⟨k + 1, Nat.succ_lt_succ hk, mem_inSteps_succ.2 ⟨b, hbk, hc⟩⟩
      exact .inl (by simpa using mem_levels.1 hck)
    calc g.visit a
        = distinct (g.levels a n) ++
            g.visitFrom (distinct (g.levels a n)).reverse (g.inSteps a n ++ []) := by
          rw [List.append_nil, ← ih]
      _ = distinct (g.levels a (n + 1)) ++
            g.visitFrom (distinct (g.levels a (n + 1))).reverse
              ([] ++ (fresh (g.levels a n) (g.inSteps a n)).flatMap g.next) := by
          rw [visitFrom_append, hnew, hdistinct, List.reverse_append, List.append_assoc]
      _ = distinct (g.levels a (n + 1)) ++
            g.visitFrom (distinct (g.levels a (n + 1))).reverse (g.inSteps a (n + 1)) := by
          rw [visitFrom_flatMap_fresh hold]
          rfl

/-- **`visit` is `levels` without repetitions**, for some number of them. -/
theorem exists_visit_eq (g : FiniteGraph α) (a : α) : ∃ n, g.visit a = distinct (g.levels a n) := by
  obtain ⟨n, hn⟩ := exists_subset_levels fun b (hb : b ∈ g.visit a) => mem_visit_iff.1 hb
  refine ⟨n, ?_⟩
  have hvisit := g.visit_eq_levels_append a n
  -- What might follow those levels is new, but everything is within them.
  have hnil : g.visitFrom (distinct (g.levels a n)).reverse (g.inSteps a n) = [] := by
    refine List.eq_nil_iff_forall_not_mem.2 fun b hb => not_mem_seen_of_mem_visitFrom hb ?_
    have hmem : b ∈ g.visit a := hvisit ▸ List.mem_append_right _ hb
    exact List.mem_reverse.2 (mem_distinct.2 (hn hmem))
  rw [hvisit, hnil, List.append_nil]

/-! ## The order of a visit -/

/-- **`Sooner g a b c`**: `b` is reached from `a` in a number of steps, and `c` is not reached in
fewer; if `c` is reached in as many, it stands farther back in `inSteps`. -/
def Sooner (g : FiniteGraph α) (a b c : α) : Prop :=
  ∃ n, b ∈ g.inSteps a n ∧ (∀ k < n, c ∉ g.inSteps a k) ∧
    (g.inSteps a n).idxOf b < (g.inSteps a n).idxOf c

/-- Of two elements not both turn up `Sooner` than the other. -/
theorem Sooner.asymm (h : g.Sooner a b c) : ¬ g.Sooner a c b := by
  rintro ⟨k, hc, hb', hlt'⟩
  obtain ⟨n, hb, hc', hlt⟩ := h
  rcases Nat.lt_trichotomy n k with hnk | rfl | hkn
  · exact hb' n hnk hb
  · exact Nat.lt_asymm hlt hlt'
  · exact hc' k hkn hc

/-- An element `b` turns up `Sooner` than what is not reached in as many steps, nor in fewer. -/
theorem sooner_of_not_mem (hb : b ∈ g.inSteps a n) (hc : ∀ k ≤ n, c ∉ g.inSteps a k) :
    g.Sooner a b c := by
  refine ⟨n, hb, fun k hk => hc k (Nat.le_of_lt hk), ?_⟩
  -- What is missing from a level counts as standing behind its end.
  rw [List.idxOf_eq_length (hc n (Nat.le_refl n))]
  exact List.idxOf_lt_length_of_mem hb

/-- Among the elements of `next a`, the order there makes one `Sooner` than the other. -/
theorem sooner_of_idxOf_next (hb : b ∈ g.next a) (hc : c ≠ a)
    (hlt : (g.next a).idxOf b < (g.next a).idxOf c) : g.Sooner a b c := by
  have hlevel : g.inSteps a 1 = g.next a := List.append_nil _
  refine ⟨1, hlevel ▸ hb, fun k hk => ?_, hlevel ▸ hlt⟩
  obtain rfl : k = 0 := Nat.lt_one_iff.1 hk
  exact fun hmem => hc (mem_inSteps_zero.1 hmem)

/-- In `distinct (g.levels a n)` every element stands after those that turn up `Sooner`. -/
theorem pairwise_sooner_levels (g : FiniteGraph α) (a : α) (n : Nat) :
    (distinct (g.levels a n)).Pairwise (g.Sooner a) := by
  induction n with
  | zero => exact .nil
  | succ n ih =>
    rw [levels_succ, distinct_append, List.pairwise_append]
    refine ⟨ih, ?_, fun b hb c hc => ?_⟩
    · -- Within the last level the order is that of the level.
      refine ((pairwise_idxOf_distinct _).sublist List.filter_sublist).imp_of_mem
        fun {b c} hb hc hlt => ⟨n, ?_, fun k hk hck => ?_, hlt⟩
      · exact mem_distinct.1 (List.mem_filter.1 hb).1
      · have hnew := of_decide_eq_true (List.mem_filter.1 hc).2
        exact hnew (mem_levels.2 ⟨k, hk, hck⟩)
    · -- What is new in the last level is in none before.
      obtain ⟨k, hk, hbk⟩ := mem_levels.1 (mem_distinct.1 hb)
      have hnew := of_decide_eq_true (List.mem_filter.1 hc).2
      exact sooner_of_not_mem hbk fun i hi hci =>
        hnew (mem_levels.2 ⟨i, Nat.lt_of_le_of_lt hi hk, hci⟩)

/-- **`visit` lists every element after those that turn up `Sooner`.** -/
theorem pairwise_sooner_visit (g : FiniteGraph α) (a : α) :
    (g.visit a).Pairwise (g.Sooner a) := by
  obtain ⟨n, hn⟩ := g.exists_visit_eq a
  rw [hn]
  exact g.pairwise_sooner_levels a n

/-- **Of two elements that `a` `Leads` to one turns up `Sooner`.** -/
theorem sooner_or_sooner (hb : g.Leads a b) (hc : g.Leads a c) (hne : b ≠ c) :
    g.Sooner a b c ∨ g.Sooner a c b := by
  obtain ⟨i, hi, rfl⟩ := List.getElem_of_mem (mem_visit_iff.2 hb)
  obtain ⟨j, hj, rfl⟩ := List.getElem_of_mem (mem_visit_iff.2 hc)
  have hpair := List.pairwise_iff_getElem.1 (g.pairwise_sooner_visit a)
  rcases Nat.lt_trichotomy i j with hij | rfl | hji
  · exact .inl (hpair i j hi hj hij)
  · exact absurd rfl hne
  · exact .inr (hpair j i hj hi hji)

/-- **Where `next` gives one successor at most, an element turns up `Sooner` than any that does not
lead to it.** -/
theorem sooner_of_not_leads (hsingle : ∀ b, (g.next b).length ≤ 1) (hb : g.Leads a b)
    (hcb : ¬ g.Leads c b) : g.Sooner a b c := by
  obtain ⟨n, hn⟩ := exists_mem_inSteps_iff.2 hb
  -- Were the other element reached as soon, it would stand on the only way.
  exact sooner_of_not_mem hn fun k hk hck => hcb (leads_of_mem_inSteps hsingle hck hn hk)

end FiniteGraph

end AccessorSchema
