/-!
# Maps kept in increasing key order

**`OrderedMap κ α`** is a finite map whose entries are listed by increasing key. As with
`OrderedSet`, the list is the only representation, so reading every key tells maps apart.

* `insert` sets the value of a key, `get?` looks a key up, `keys` and `values` list the map;
* **`get?_insert`** — a look-up after an insertion;
* **`mem_keys_iff`** — the keys are exactly those with a value;
* **`OrderedMap.ext_get`** — maps that agree on every look-up are the same map.
-/

namespace AccessorSchema

open Std

/-- A finite map as the list of its `entries` by increasing key. -/
structure OrderedMap (κ α : Type) [Ord κ] where
  entries : List (κ × α)
  increasing : entries.Pairwise fun a b => compare a.1 b.1 = .lt

namespace OrderedMap

variable {κ α : Type} [Ord κ]

/-- Sets the value of `k` to `a` in a list of entries with increasing keys. -/
def insertInto (k : κ) (a : α) : List (κ × α) → List (κ × α)
  | [] => [(k, a)]
  | e :: rest =>
    match compare k e.1 with
    | .lt => (k, a) :: e :: rest
    | .eq => (k, a) :: rest
    | .gt => e :: insertInto k a rest

/-- The value of `k` in a list of entries. -/
def lookup (k : κ) : List (κ × α) → Option α
  | [] => none
  | e :: rest => if compare k e.1 == .eq then some e.2 else lookup k rest

/-- The map without entries, `∅`. -/
def empty : OrderedMap κ α := ⟨[], .nil⟩

instance : EmptyCollection (OrderedMap κ α) := ⟨empty⟩
instance : Inhabited (OrderedMap κ α) := ⟨empty⟩

/-- The value of `k` in `m`, if it has one. -/
def get? (m : OrderedMap κ α) (k : κ) : Option α := lookup k m.entries

/-- Whether `k` has a value in `m`. -/
def contains (m : OrderedMap κ α) (k : κ) : Bool := (m.get? k).isSome

/-- The keys of `m` in increasing order. -/
def keys (m : OrderedMap κ α) : List κ := m.entries.map (·.1)

/-- The values of `m` in the order of their keys. -/
def values (m : OrderedMap κ α) : List α := m.entries.map (·.2)

/-- The number of entries of `m`. -/
def size (m : OrderedMap κ α) : Nat := m.entries.length

/-- Whether `m` has no entry. -/
def isEmpty (m : OrderedMap κ α) : Bool := m.entries.isEmpty

@[simp] theorem get?_empty (k : κ) : (∅ : OrderedMap κ α).get? k = none := rfl

variable [LawfulEqOrd κ]

theorem key_mem_insertInto {k k' : κ} {a : α} {l : List (κ × α)} :
    k' ∈ (insertInto k a l).map (·.1) ↔ k' = k ∨ k' ∈ l.map (·.1) := by
  induction l with
  | nil => simp [insertInto]
  | cons e rest ih =>
    unfold insertInto
    split
    · simp
    · next h => simp [LawfulEqOrd.eq_of_compare h]
    · simp only [List.map_cons, List.mem_cons, ih]; grind

theorem lookup_insertInto [DecidableEq κ] {k k' : κ} {a : α} {l : List (κ × α)} :
    lookup k' (insertInto k a l) = if k' = k then some a else lookup k' l := by
  induction l with
  | nil => simp [insertInto, lookup]
  | cons e rest ih =>
    unfold insertInto
    split
    · simp [lookup]
    · next h =>
      obtain rfl := LawfulEqOrd.eq_of_compare h
      by_cases hk : k' = e.1 <;> simp [lookup, hk]
    · next h =>
      simp only [lookup, ih, Std.compare_eq_iff_eq, beq_iff_eq]
      by_cases hk : k' = k
      · subst hk
        simp only [if_true]
        rw [if_neg]
        rintro rfl
        simp [ReflOrd.compare_self] at h
      · simp [hk]

variable [TransOrd κ]

theorem increasing_insertInto {k : κ} {a : α} {l : List (κ × α)}
    (h : l.Pairwise fun a b => compare a.1 b.1 = .lt) :
    (insertInto k a l).Pairwise fun a b => compare a.1 b.1 = .lt := by
  induction l with
  | nil => simp [insertInto]
  | cons e rest ih =>
    obtain ⟨he, hrest⟩ := List.pairwise_cons.1 h
    unfold insertInto
    split
    · next hlt =>
      refine List.pairwise_cons.2 ⟨fun b hb => ?_, h⟩
      rcases List.mem_cons.1 hb with rfl | hb
      · exact hlt
      · exact TransCmp.lt_trans hlt (he b hb)
    · next heq =>
      obtain rfl := LawfulEqOrd.eq_of_compare heq
      exact List.pairwise_cons.2 ⟨he, hrest⟩
    · next hgt =>
      refine List.pairwise_cons.2 ⟨fun b hb => ?_, ih hrest⟩
      -- A later key is `k` itself or one of `rest`, and `e.1` is smaller than either.
      have hkey : b.1 ∈ (insertInto k a rest).map (·.1) := List.mem_map_of_mem hb
      rcases key_mem_insertInto.1 hkey with e' | hb'
      · rw [e']; exact OrientedCmp.lt_of_gt hgt
      · obtain ⟨c, hc, hcb⟩ := List.mem_map.1 hb'
        rw [← hcb]; exact he c hc

/-- Sets the value of `k` in `m` to `a`. -/
def insert (m : OrderedMap κ α) (k : κ) (a : α) : OrderedMap κ α :=
  ⟨insertInto k a m.entries, increasing_insertInto m.increasing⟩

/-- The map of a list `l` of entries; of two entries with one key the later one counts. -/
def ofList (l : List (κ × α)) : OrderedMap κ α := l.foldl (fun m e => m.insert e.1 e.2) ∅

theorem get?_insert [DecidableEq κ] (m : OrderedMap κ α) (k k' : κ) (a : α) :
    (m.insert k a).get? k' = if k' = k then some a else m.get? k' :=
  lookup_insertInto

omit [TransOrd κ] in
theorem mem_keys_iff {m : OrderedMap κ α} {k : κ} : k ∈ m.keys ↔ (m.get? k).isSome := by
  unfold keys get?
  induction m.entries with
  | nil => simp [lookup]
  | cons e rest ih =>
    simp only [List.map_cons, List.mem_cons, ih, lookup, Std.compare_eq_iff_eq, beq_iff_eq]
    by_cases h : k = e.1 <;> simp [h]

omit [TransOrd κ] in
/-- `m.keys` lists no key twice. -/
theorem nodup_keys (m : OrderedMap κ α) : m.keys.Nodup := by
  refine List.pairwise_map.2 (m.increasing.imp fun {a b} hlt heq => ?_)
  rw [heq, ReflOrd.compare_self] at hlt
  exact absurd hlt (by decide)

/-- The keys of `m.insert k a`, for a new key `k`: it joins the others. -/
theorem keys_insert_perm {m : OrderedMap κ α} {k : κ} (a : α) (hk : k ∉ m.keys) :
    (m.insert k a).keys.Perm (k :: m.keys) := by
  obtain ⟨entries, increasing⟩ := m
  change k ∉ entries.map (·.1) at hk
  change ((insertInto k a entries).map (·.1)).Perm (k :: entries.map (·.1))
  clear increasing
  induction entries with
  | nil => exact .refl _
  | cons e rest ih =>
    rw [List.map_cons, List.mem_cons, not_or] at hk
    unfold insertInto
    split
    · exact .refl _
    · next heq => exact absurd (LawfulEqOrd.eq_of_compare heq) hk.1
    · exact ((ih hk.2).cons e.1).trans (.swap k e.1 _)

omit [LawfulEqOrd κ] [TransOrd κ] in
theorem lookup_eq_none_of_lt {k : κ} {l : List (κ × α)}
    (h : ∀ e ∈ l, compare k e.1 = .lt) : lookup k l = none := by
  induction l with
  | nil => rfl
  | cons e rest ih =>
    simp [lookup, h e List.mem_cons_self, ih fun e he => h e (List.mem_cons_of_mem _ he)]

/-- `m.get?` finds an entry `e` under its key. -/
theorem get?_of_mem_entries {m : OrderedMap κ α} {e : κ × α} (he : e ∈ m.entries) :
    m.get? e.1 = some e.2 := by
  obtain ⟨entries, increasing⟩ := m
  change lookup e.1 entries = some e.2
  induction entries with
  | nil => exact absurd he List.not_mem_nil
  | cons f rest ih =>
    obtain ⟨hf, hrest⟩ := List.pairwise_cons.1 increasing
    rcases List.mem_cons.1 he with rfl | he
    · simp [lookup, ReflOrd.compare_self]
    · have hgt : compare e.1 f.1 = .gt := OrientedCmp.gt_of_lt (hf e he)
      simp only [lookup, hgt]
      exact ih hrest he

/-- `m.values = m.keys.map f` if `f` gives the value of each key. -/
theorem values_eq_map_keys {m : OrderedMap κ α} {f : κ → α}
    (h : ∀ k ∈ m.keys, m.get? k = some (f k)) : m.values = m.keys.map f := by
  unfold values keys
  rw [List.map_map]
  refine List.map_congr_left fun e he => ?_
  have hget := h e.1 (List.mem_map_of_mem he)
  rw [get?_of_mem_entries he] at hget
  exact Option.some.inj hget

/-- Maps that agree on every `get?` are the same map. -/
theorem ext_get {m n : OrderedMap κ α} (h : ∀ k, m.get? k = n.get? k) : m = n := by
  obtain ⟨l, hl⟩ := m
  obtain ⟨r, hr⟩ := n
  simp only [mk.injEq]
  simp only [get?] at h
  induction l generalizing r with
  | nil =>
    cases r with
    | nil => rfl
    | cons e r => simpa [lookup, ReflOrd.compare_self] using h e.1
  | cons d l ih =>
    cases r with
    | nil => simpa [lookup, ReflOrd.compare_self] using h d.1
    | cons e r =>
      have hd := List.pairwise_cons.1 hl
      have he := List.pairwise_cons.1 hr
      have hdl : lookup d.1 l = none := lookup_eq_none_of_lt hd.1
      have her : lookup e.1 r = none := lookup_eq_none_of_lt he.1
      -- The smaller of two different first keys would be missing in the other map.
      cases hc : compare d.1 e.1 with
      | lt =>
        have := h d.1
        rw [lookup_eq_none_of_lt (l := e :: r)] at this
        · simp [lookup, ReflOrd.compare_self] at this
        · intro c hc'
          rcases List.mem_cons.1 hc' with rfl | hc'
          · exact hc
          · exact TransCmp.lt_trans hc (he.1 c hc')
      | gt =>
        have hlt := OrientedCmp.lt_of_gt hc
        have := h e.1
        rw [lookup_eq_none_of_lt (l := d :: l)] at this
        · simp [lookup, ReflOrd.compare_self] at this
        · intro c hc'
          rcases List.mem_cons.1 hc' with rfl | hc'
          · exact hlt
          · exact TransCmp.lt_trans hlt (hd.1 c hc')
      | eq =>
        have hk := LawfulEqOrd.eq_of_compare hc
        have hv := h d.1
        simp only [lookup, hk, ReflOrd.compare_self, beq_self_eq_true, if_true,
          Option.some.injEq] at hv
        have hde : d = e := Prod.ext hk hv
        subst hde
        -- The first entries are the same, and neither rest has anything under their key.
        refine congrArg _ (ih hd.2 r he.2 fun k => ?_)
        have hk' := h k
        simp only [lookup] at hk'
        by_cases hkd : k = d.1
        · subst hkd; rw [hdl, her]
        · simpa [hkd] using hk'

end OrderedMap

end AccessorSchema
