import AccessorSchema.Collection.Distinct

/-!
# First occurrences, in their order

What is left of a list when later repetitions are dropped:

* **`nodup_distinct`**, `distinct_sublist` — every element once, in the order of the list;
* **`pairwise_idxOf_distinct`** — the order is that of first occurrence;
* **`distinct_filter`** — dropping repetitions commutes with selecting elements;
* `distinct_append` — of a second list what is new is left;
* **`length_distinctOn_le_one_iff`** — one representative at most is left exactly if all elements
  have one value;
* `one_lt_length_iff_exists_ne` — where nothing is repeated, more than one element means another;
* `find?_key_eq_some_iff` — where no key is repeated, an element is found by its key;
* `eq_of_pairwise_asymm` — elements have one arrangement in an asymmetric order.
-/

namespace AccessorSchema

variable {α β : Type}

section Keyed

variable [DecidableEq β] {f : α → β}

/-- `distinctOn f l`, one element for each value of `f`, is a sublist of `l`. -/
theorem distinctOn_sublist (f : α → β) (l : List α) : (distinctOn f l).Sublist l := by
  induction l with
  | nil => exact .slnil
  | cons a l ih =>
    rw [distinctOn_cons]
    exact ((List.filter_sublist).trans ih).cons_cons a

/-- What `distinctOn` keeps is an element of `l`. -/
theorem mem_of_mem_distinctOn {a : α} {l : List α} (h : a ∈ distinctOn f l) : a ∈ l :=
  (distinctOn_sublist f l).subset h

/-- Every element of `l` has a representative in `distinctOn f l`, with the same value of `f`. -/
theorem exists_mem_distinctOn {a : α} {l : List α} (h : a ∈ l) :
    ∃ b ∈ distinctOn f l, f b = f a := by
  induction l with
  | nil => exact absurd h List.not_mem_nil
  | cons c l ih =>
    rw [distinctOn_cons]
    by_cases hc : f c = f a
    · exact ⟨c, List.mem_cons_self, hc⟩
    · have hl : a ∈ l := by
        rcases List.mem_cons.1 h with rfl | hl
        · exact absurd rfl hc
        · exact hl
      obtain ⟨b, hb, hba⟩ := ih hl
      refine ⟨b, List.mem_cons_of_mem _ (List.mem_filter.2 ⟨hb, ?_⟩), hba⟩
      simpa [hba] using Ne.symm hc

/-- **`distinctOn f l` has at most one element exactly if `f` has one value** on `l`. -/
theorem length_distinctOn_le_one_iff {l : List α} :
    (distinctOn f l).length ≤ 1 ↔ ∀ a ∈ l, ∀ b ∈ l, f a = f b := by
  constructor
  · intro h a ha b hb
    obtain ⟨a', ha', haa⟩ := exists_mem_distinctOn (f := f) ha
    obtain ⟨b', hb', hbb⟩ := exists_mem_distinctOn (f := f) hb
    -- Either representative is the only one.
    have hab : a' = b' := by
      match hl : distinctOn f l, h with
      | [], _ => rw [hl] at ha'; exact absurd ha' List.not_mem_nil
      | [c], _ =>
        rw [hl, List.mem_singleton] at ha' hb'
        rw [ha', hb']
    rw [← haa, ← hbb, hab]
  · intro h
    cases l with
    | nil => simp
    | cons a l =>
      have hnil : (distinctOn f l).filter (fun b => f b ≠ f a) = [] := by
        refine List.filter_eq_nil_iff.2 fun b hb => ?_
        have hba : f b = f a :=
          h b (List.mem_cons_of_mem _ (mem_of_mem_distinctOn hb)) a List.mem_cons_self
        simp [hba]
      rw [distinctOn_cons, hnil]
      exact Nat.le_refl 1

/-- The elements of `distinctOn f l` differ in their values of `f`. -/
theorem pairwise_ne_distinctOn (f : α → β) (l : List α) :
    (distinctOn f l).Pairwise fun a b => f a ≠ f b := by
  induction l with
  | nil => exact .nil
  | cons c l ih =>
    rw [distinctOn_cons, List.pairwise_cons]
    refine ⟨fun b hb => ?_, ih.sublist List.filter_sublist⟩
    exact Ne.symm (of_decide_eq_true (List.mem_filter.1 hb).2)

/-- **`distinctOn` and one element at the end**: `a` is kept if the value `f a` is new. -/
theorem distinctOn_concat (f : α → β) (l : List α) (a : α) :
    distinctOn f (l ++ [a]) = distinctOn f l ++ if ∃ b ∈ l, f b = f a then [] else [a] := by
  induction l with
  | nil => simp [distinctOn_cons]
  | cons c l ih =>
    rw [List.cons_append, distinctOn_cons, distinctOn_cons, ih, List.filter_append, List.cons_append]
    by_cases hc : f c = f a
    · simp [hc]
    · by_cases hl : ∃ b ∈ l, f b = f a
      · simp [hl]
      · simp [hc, hl, Ne.symm hc]

/-- **Every value of `f` on `l` has one representative** in `distinctOn f l`. -/
theorem countP_distinctOn_eq_one {a : α} {l : List α} (h : a ∈ l) :
    (distinctOn f l).countP (fun b => f a = f b) = 1 := by
  induction l with
  | nil => exact absurd h List.not_mem_nil
  | cons c l ih =>
    rw [distinctOn_cons, List.countP_cons, List.countP_filter]
    by_cases hc : f a = f c
    · -- The first element represents the value, and no other one of it is kept.
      have hnone : (distinctOn f l).countP (fun b => decide (f a = f b) && decide (f b ≠ f c)) = 0 := by
        refine List.countP_eq_zero.2 fun b _ => ?_
        simp [hc, eq_comm]
      rw [hnone, if_pos (decide_eq_true hc)]
    · have hl : a ∈ l := (List.mem_cons.1 h).resolve_left fun heq => hc (congrArg f heq)
      rw [if_neg (by simpa using hc), ← ih hl]
      refine List.countP_congr fun b _ => ?_
      by_cases hb : f a = f b
      · have hbc : f b ≠ f c := hb ▸ hc
        simp [hb, hbc]
      · simp [hb]

/-- **A representative is the first element of its value**, the one that `find?` finds. -/
theorem find?_of_mem_distinctOn {a : α} {l : List α} (h : a ∈ distinctOn f l) :
    l.find? (fun b => f a = f b) = some a := by
  induction l with
  | nil => exact absurd h List.not_mem_nil
  | cons c l ih =>
    rw [distinctOn_cons, List.mem_cons] at h
    rcases h with rfl | h
    · simp
    · obtain ⟨hmem, hne⟩ := List.mem_filter.1 h
      rw [List.find?_cons_of_neg (by simpa using hne)]
      exact ih hmem

/-- **`distinctOn` keeps the order of `idxOf`**, that of first occurrences. -/
theorem pairwise_idxOf_distinctOn [DecidableEq α] (f : α → β) (l : List α) :
    (distinctOn f l).Pairwise fun a b => l.idxOf a < l.idxOf b := by
  induction l with
  | nil => exact .nil
  | cons c l ih =>
    have hne : ∀ b ∈ (distinctOn f l).filter (fun b => f b ≠ f c), b ≠ c := by
      rintro b hb rfl
      simpa using (List.mem_filter.1 hb).2
    rw [distinctOn_cons, List.pairwise_cons]
    constructor
    · intro b hb
      rw [List.idxOf_cons_self, List.idxOf_cons, cond_eq_ite, if_neg (by simpa using (hne b hb).symm)]
      omega
    · -- Past the head both places move by one.
      refine (ih.sublist List.filter_sublist).imp_of_mem fun {a b} ha hb hab => ?_
      rw [List.idxOf_cons, List.idxOf_cons, cond_eq_ite, cond_eq_ite,
        if_neg (by simpa using (hne a ha).symm), if_neg (by simpa using (hne b hb).symm)]
      omega

end Keyed

/-- In a list `l` where `Nodup` holds, `l` has more than one element exactly if it has another one
beside `a`. -/
theorem one_lt_length_iff_exists_ne {l : List α} (hl : l.Nodup) {a : α} (ha : a ∈ l) :
    1 < l.length ↔ ∃ b ∈ l, b ≠ a := by
  match l with
  | [] => exact absurd ha List.not_mem_nil
  | [c] =>
    obtain rfl := List.mem_singleton.1 ha
    simp
  | c :: d :: rest =>
    have hcd : c ≠ d := fun heq => (List.nodup_cons.1 hl).1 (heq ▸ List.mem_cons_self)
    refine ⟨fun _ => ?_, fun _ => by simp⟩
    -- Of the first two elements one at least is not the given one.
    by_cases hc : c = a
    · exact ⟨d, List.mem_cons_of_mem _ List.mem_cons_self, fun hd => hcd (hc.trans hd.symm)⟩
    · exact ⟨c, List.mem_cons_self, hc⟩

/-- **Where no key `f a` is repeated, `find?` finds an element by its key.** -/
theorem find?_key_eq_some_iff [DecidableEq β] {f : α → β} {l : List α} (h : (l.map f).Nodup) {a : α}
    {b : β} : l.find? (f · = b) = some a ↔ a ∈ l ∧ f a = b := by
  induction l with
  | nil => simp
  | cons c l ih =>
    obtain ⟨hc, hl⟩ := List.nodup_cons.1 h
    by_cases hb : f c = b
    · rw [List.find?_cons_of_pos (by simpa using hb), Option.some.injEq, List.mem_cons]
      constructor
      · rintro rfl
        exact ⟨.inl rfl, hb⟩
      · rintro ⟨rfl | ha, hfa⟩
        · rfl
        · -- An element further on has another key.
          exact absurd (List.mem_map.2 ⟨a, ha, hfa.trans hb.symm⟩) hc
    · rw [List.find?_cons_of_neg (by simpa using hb), ih hl, List.mem_cons]
      constructor
      · rintro ⟨ha, hfa⟩
        exact ⟨.inr ha, hfa⟩
      · rintro ⟨rfl | ha, hfa⟩
        · exact absurd hfa hb
        · exact ⟨ha, hfa⟩

/-- **Elements have one arrangement in an asymmetric order** `r`. -/
theorem eq_of_pairwise_asymm {r : α → α → Prop} (hasymm : ∀ a b, r a b → ¬ r b a) {l l' : List α}
    (h : l.Pairwise r) (h' : l'.Pairwise r) (hmem : ∀ a, a ∈ l ↔ a ∈ l') : l = l' := by
  have hne : ∀ {a b : α}, r a b → a ≠ b := by
    rintro a b hab rfl
    exact hasymm a a hab hab
  -- One list is a permutation of the other, and an asymmetric order leaves no choice.
  refine List.Perm.eq_of_pairwise (fun a b _ _ hab hba => absurd hba (hasymm a b hab)) h h' ?_
  exact (List.perm_ext_iff_of_nodup (h.imp hne) (h'.imp hne)).2 hmem

section Plain

variable [DecidableEq α]

@[simp] theorem distinct_nil : distinct ([] : List α) = [] := rfl

theorem distinct_cons (a : α) (l : List α) :
    distinct (a :: l) = a :: (distinct l).filter (· ≠ a) := rfl

/-- `distinct l` is a sublist of `l`. -/
theorem distinct_sublist (l : List α) : (distinct l).Sublist l := distinctOn_sublist id l

/-- **`distinct` leaves every element once.** -/
theorem nodup_distinct (l : List α) : (distinct l).Nodup := by
  induction l with
  | nil => exact .nil
  | cons a l ih =>
    rw [distinct_cons, List.nodup_cons]
    refine ⟨fun h => ?_, ih.filter _⟩
    have hne := (List.mem_filter.1 h).2
    simp at hne

/-- **`distinct` keeps the order of `idxOf`**, that of first occurrences. -/
theorem pairwise_idxOf_distinct (l : List α) :
    (distinct l).Pairwise fun a b => l.idxOf a < l.idxOf b := pairwise_idxOf_distinctOn id l

/-- **`distinct` commutes with `filter`.** -/
theorem distinct_filter (p : α → Bool) (l : List α) :
    distinct (l.filter p) = (distinct l).filter p := by
  induction l with
  | nil => rfl
  | cons a l ih =>
    rw [distinct_cons]
    by_cases ha : p a = true
    · rw [List.filter_cons_of_pos ha, List.filter_cons_of_pos ha, distinct_cons, ih,
        List.filter_filter, List.filter_filter]
      refine congrArg _ (List.filter_congr fun b _ => ?_)
      rw [Bool.and_comm]
    · rw [List.filter_cons_of_neg ha, List.filter_cons_of_neg ha, ih, List.filter_filter]
      -- An element that is selected differs from the head, which is not.
      refine List.filter_congr fun b _ => ?_
      by_cases hb : p b = true
      · have hne : b ≠ a := fun e => ha (e ▸ hb)
        simp [hne]
      · simp [hb]

/-- Of a list `m` that follows `l`, `distinct` leaves what is not in `l`. -/
theorem distinct_append (l m : List α) :
    distinct (l ++ m) = distinct l ++ (distinct m).filter (· ∉ l) := by
  induction l with
  | nil => simp [List.filter_eq_self.2]
  | cons a l ih =>
    rw [List.cons_append, distinct_cons, distinct_cons, ih, List.filter_append, List.filter_filter,
      List.cons_append]
    refine congrArg _ (congrArg _ (List.filter_congr fun b _ => ?_))
    rw [← Bool.decide_and]
    simp only [List.mem_cons, not_or]

/-- At the end of `l`, an element `a` is left by `distinct` if it is new. -/
theorem distinct_concat (l : List α) (a : α) :
    distinct (l ++ [a]) = if a ∈ distinct l then distinct l else distinct l ++ [a] := by
  rw [distinct_append, distinct_cons, distinct_nil, List.filter_nil]
  by_cases ha : a ∈ l
  · simp [ha]
  · simp [ha]

end Plain

end AccessorSchema
