import AccessorSchema.Proofs.MethodCollection
import AccessorSchema.Proofs.NameOrder

/-!
# Which declarations a catalog holds

Declarations are inserted one after another. A name that has been declared is refused, and the catalog
stays what it was; so of each name the first declaration is kept. A catalog that is made of a list of
declarations needs them to have different names, and then it does not matter in which order they come.

* **`Catalog.afterInsert`** — the catalog after one insertion, be it refused or not;
* **`Catalog.get?_afterInserts`** — what is declared after any number of them;
* **`Catalog.KeepsFirst`** — a catalog that holds the first declaration of each name;
* **`Catalog.ofDeclarations_eq_ok_iff`** — a list of declarations makes a catalog exactly if no two have one
  name;
* **`Catalog.inserts_keepFirst`** — any insertions leave a catalog of first declarations, and those of
  different names one that does not depend on their order.
-/

namespace AccessorSchema

namespace Catalog

variable {c : Catalog} {d : TypeDeclaration} {calls calls' : List TypeDeclaration} {name : TypeName}

/-- Catalogs for which `get?` answers the same are the same. -/
theorem ext_get? {c c' : Catalog} (h : ∀ name, c.get? name = c'.get? name) : c = c' := by
  obtain ⟨types, hname⟩ := c
  obtain ⟨types', hname'⟩ := c'
  obtain rfl : types = types' := OrderedMap.ext_get h
  rfl

/-! ## One insertion -/

/-- `c.afterInsert d`: the catalog after one `insert`. What has been refused changes nothing. -/
def afterInsert (c : Catalog) (d : TypeDeclaration) : Catalog :=
  match c.insert d with
  | .ok c' => c'
  | .error _ => c

/-- `insert` refuses a declaration of a name that the catalog `contains`, as `redeclared`. -/
theorem insert_of_contains (h : c.contains d.name = true) :
    c.insert d = .error (.catalog (redeclared d.name)) := if_pos h

/-- **`insert` adds a declaration of a new name**, and `get?` answers as before for other names. -/
theorem exists_insert_of_not_contains (h : c.contains d.name = false) :
    ∃ c', c.insert d = .ok c' ∧ ∀ name, c'.get? name = if name = d.name then some d else c.get? name := by
  refine ⟨_, if_neg (by simp [h]), fun name => ?_⟩
  exact OrderedMap.get?_insert c.types d.name name d

/-- **`insert` fails exactly if the name is declared**, as `redeclared` and for no other reason. -/
theorem insert_eq_error_iff {e : Failure} :
    c.insert d = .error e ↔ c.contains d.name = true ∧ e = .catalog (redeclared d.name) := by
  cases h : c.contains d.name with
  | true =>
    rw [insert_of_contains h, Except.error.injEq, eq_comm]
    simp
  | false =>
    obtain ⟨c', hc', -⟩ := exists_insert_of_not_contains h
    rw [hc']
    simp

/-- If `insert` refuses `d`, then `afterInsert` changes nothing. -/
theorem afterInsert_of_contains (h : c.contains d.name = true) : c.afterInsert d = c := by
  rw [afterInsert, insert_of_contains h]

/-- If `insert` does not refuse `d`, it leads to `afterInsert`. -/
theorem insert_eq_ok_afterInsert (h : c.contains d.name = false) : c.insert d = .ok (c.afterInsert d) := by
  obtain ⟨c', hc', -⟩ := exists_insert_of_not_contains h
  rw [afterInsert, hc']

/-- **`get?` after one insertion**: a name keeps its declaration, and a new one has `d`. -/
theorem get?_afterInsert (c : Catalog) (d : TypeDeclaration) (name : TypeName) :
    (c.afterInsert d).get? name = (c.get? name).or (if d.name = name then some d else none) := by
  cases h : c.contains d.name with
  | true =>
    rw [afterInsert_of_contains h]
    by_cases hname : d.name = name
    · -- The name that was declared before keeps its declaration, since `or` takes the first.
      obtain ⟨d', hd'⟩ := Option.isSome_iff_exists.1 h
      have hget : c.get? name = some d' := hname ▸ hd'
      rw [hget, Option.some_or]
    · rw [if_neg hname, Option.or_none]
  | false =>
    obtain ⟨c', hc', hget⟩ := exists_insert_of_not_contains h
    have hafter : c.afterInsert d = c' := by rw [afterInsert, hc']
    rw [hafter, hget]
    by_cases hname : d.name = name
    · have hsome : (c.get? d.name).isSome = false := h
      have hnone : c.get? name = none := by
        rw [← hname, ← Option.isNone_iff_eq_none, ← Option.isSome_eq_false_iff, hsome]
      rw [if_pos hname.symm, if_pos hname, hnone, Option.none_or]
    · rw [if_neg (Ne.symm hname), if_neg hname, Option.or_none]

/-! ## Any number of insertions -/

/-- `afterInserts calls`: the catalog after the insertions of `calls` one after another, beginning
with `∅`. -/
def afterInserts (calls : List TypeDeclaration) : Catalog := calls.foldl afterInsert ∅

theorem afterInserts_concat (calls : List TypeDeclaration) (d : TypeDeclaration) :
    afterInserts (calls ++ [d]) = (afterInserts calls).afterInsert d := by
  rw [afterInserts, List.foldl_append]
  rfl

/-- **Of each name `afterInserts` keeps the first declaration**, the one that `find?` finds. -/
theorem get?_afterInserts (calls : List TypeDeclaration) (name : TypeName) :
    (afterInserts calls).get? name = calls.find? (·.name = name) := by
  induction calls using List.reverseRecOn with
  | nil => rfl
  | append_singleton calls d ih =>
    rw [afterInserts_concat, get?_afterInsert, ih, List.find?_append, List.find?_cons, List.find?_nil]
    by_cases hname : d.name = name
    · simp [hname]
    · simp [hname]

/-- The catalog `afterInserts calls` contains the names of `calls` and no others. -/
theorem contains_afterInserts_iff :
    (afterInserts calls).contains name = true ↔ ∃ d ∈ calls, d.name = name := by
  have hget : (afterInserts calls).contains name = ((afterInserts calls).get? name).isSome := rfl
  rw [hget, get?_afterInserts, List.find?_isSome]
  simp only [decide_eq_true_eq]

/-- **`KeepsFirst c given`**: of each name, the catalog `c` keeps the first declaration among those
`given`. -/
structure KeepsFirst (c : Catalog) (given : List TypeDeclaration) : Prop where
  first : ∀ name, c.get? name = given.find? (·.name = name)
  mem_names_iff : ∀ name, name ∈ c.names ↔ ∃ d ∈ given, d.name = name
  /-- `names` increases by `codePoints`, so that each name is listed once. -/
  increasing : c.names.Pairwise fun a b => codePoints a < codePoints b
  /-- A further `insert` fails exactly if a declaration of that name has been given. -/
  refused_iff : ∀ d e, c.insert d = .error e ↔
    (∃ d' ∈ given, d'.name = d.name) ∧ e = .catalog (redeclared d.name)
  /-- Then `afterInsert` leaves the catalog as it is. -/
  unchanged : ∀ d, (∃ d' ∈ given, d'.name = d.name) → c.afterInsert d = c
  /-- Otherwise `insert` succeeds with `afterInsert`. -/
  accepted : ∀ d, (∀ d' ∈ given, d'.name ≠ d.name) → c.insert d = .ok (c.afterInsert d)

/-- **`afterInserts` gives a catalog of first declarations**, for every list of `calls`. -/
theorem keepsFirst_afterInserts (calls : List TypeDeclaration) :
    (afterInserts calls).KeepsFirst calls where
  first := get?_afterInserts calls
  mem_names_iff _ := Catalog.mem_names_iff.trans contains_afterInserts_iff
  increasing := (afterInserts calls).types.pairwise_codePoints
  refused_iff d e := by rw [insert_eq_error_iff, contains_afterInserts_iff]
  unchanged _ h := afterInsert_of_contains (contains_afterInserts_iff.2 h)
  accepted d h := by
    refine insert_eq_ok_afterInsert (Bool.eq_false_iff.2 fun hcontains => ?_)
    obtain ⟨d', hd', hname⟩ := contains_afterInserts_iff.1 hcontains
    exact h d' hd' hname

/-! ## Lists of declarations -/

/-- `ofDeclarations` succeeds on `calls ++ [d]` if it does on `calls` and `insert` does not refuse
`d`. -/
theorem ofDeclarations_concat (calls : List TypeDeclaration) (d : TypeDeclaration) :
    ofDeclarations (calls ++ [d]) = (ofDeclarations calls).bind (·.insert d) := by
  rw [ofDeclarations, List.foldlM_append]
  simp only [List.foldlM_cons, List.foldlM_nil, bind_pure]
  rfl

/-- **`ofDeclarations` succeeds exactly if no two declarations have one name**, and then with
`afterInserts`. -/
theorem ofDeclarations_eq_ok_iff :
    ofDeclarations calls = .ok c ↔ (calls.map (·.name)).Nodup ∧ c = afterInserts calls := by
  induction calls using List.reverseRecOn generalizing c with
  | nil =>
    rw [ofDeclarations, afterInserts]
    simp [pure, Except.pure, eq_comm]
  | append_singleton calls d ih =>
    have hnodup : ((calls ++ [d]).map (·.name)).Nodup ↔
        (calls.map (·.name)).Nodup ∧ (afterInserts calls).contains d.name = false := by
      rw [List.map_append, List.nodup_append, ← Bool.not_eq_true, contains_afterInserts_iff]
      simp
    rw [ofDeclarations_concat, hnodup, afterInserts_concat]
    cases hbefore : ofDeclarations calls with
    | error e =>
      -- Two of the earlier declarations have one name.
      refine iff_of_false nofun ?_
      rintro ⟨⟨hcalls, -⟩, -⟩
      have hok : ofDeclarations calls = .ok (afterInserts calls) := ih.2 ⟨hcalls, rfl⟩
      exact nomatch hbefore.symm.trans hok
    | ok before =>
      obtain ⟨hcalls, rfl⟩ := ih.1 hbefore
      change (afterInserts calls).insert d = .ok c ↔ _
      cases hd : (afterInserts calls).contains d.name with
      | true => simp [insert_of_contains hd]
      | false => simp [insert_eq_ok_afterInsert hd, hcalls, eq_comm]

/-- **The order of declarations of different names does not matter** to `afterInserts`. -/
theorem afterInserts_eq_of_perm (hperm : calls.Perm calls') (hnodup : (calls.map (·.name)).Nodup) :
    afterInserts calls = afterInserts calls' := by
  have hnodup' : (calls'.map (·.name)).Nodup := (hperm.map _).nodup_iff.1 hnodup
  refine ext_get? fun name => Option.ext fun d => ?_
  rw [get?_afterInserts, get?_afterInserts, find?_key_eq_some_iff hnodup, find?_key_eq_some_iff hnodup',
    hperm.mem_iff]

/-- **A catalog keeps the first declaration of each name, and does not depend on their order.**
After any insertions `KeepsFirst` holds: of each name the catalog has the declaration that was given
first, and `insert` refuses what has a name that was given. `ofDeclarations` succeeds exactly if all
names are different; however the `calls` are arranged, each type then has the same `methodSet?` and
the same `directSupertypes`. -/
theorem inserts_keepFirst (calls : List TypeDeclaration) :
    (afterInserts calls).KeepsFirst calls ∧
      ((∃ c, ofDeclarations calls = .ok c) ↔ (calls.map (·.name)).Nodup) ∧
      ∀ calls', calls.Perm calls' → (calls.map (·.name)).Nodup →
        ∃ c c', ofDeclarations calls = .ok c ∧ ofDeclarations calls' = .ok c' ∧
          (∀ name, c.methodSet? name = c'.methodSet? name) ∧
          ∀ name, c.hierarchy.directSupertypes name = c'.hierarchy.directSupertypes name := by
  refine ⟨keepsFirst_afterInserts calls, ?_, fun calls' hperm hnodup => ?_⟩
  · constructor
    · rintro ⟨c, hc⟩
      exact (ofDeclarations_eq_ok_iff.1 hc).1
    · intro hnodup
      exact ⟨_, ofDeclarations_eq_ok_iff.2 ⟨hnodup, rfl⟩⟩
  · have hnodup' : (calls'.map (·.name)).Nodup := (hperm.map _).nodup_iff.1 hnodup
    -- Both lists make one and the same catalog.
    have hsame : afterInserts calls = afterInserts calls' := afterInserts_eq_of_perm hperm hnodup
    have hok : ofDeclarations calls = .ok (afterInserts calls) := ofDeclarations_eq_ok_iff.2 ⟨hnodup, rfl⟩
    have hok' : ofDeclarations calls' = .ok (afterInserts calls) :=
      ofDeclarations_eq_ok_iff.2 ⟨hnodup', hsame⟩
    exact ⟨_, _, hok, hok', fun _ => rfl, fun _ => rfl⟩

/-- The theorem `inserts_keepFirst` on two declarations, of a type and of its supertype, in either
order. -/
theorem subtype_declared_first :
    let sub : TypeDeclaration := { name := "Person", supertypes := ["Named"] }
    let super : TypeDeclaration :=
      { name := "Named", methods := [{ name := "getName", returns := "String" }] }
    ∃ c c', ofDeclarations [sub, super] = .ok c ∧ ofDeclarations [super, sub] = .ok c' ∧
      (∀ name, c.methodSet? name = c'.methodSet? name) ∧
      ∀ name, c.hierarchy.directSupertypes name = c'.hierarchy.directSupertypes name := by
  intro sub super
  exact (inserts_keepFirst [sub, super]).2.2 [super, sub] (.swap super sub []) (by decide)

end Catalog

end AccessorSchema
