import AccessorSchema.Proofs.FirstOccurrence
import AccessorSchema.Proofs.Grouping
import AccessorSchema.Proofs.NameOrder
import Mathlib.Data.List.Induction
import Mathlib.Data.List.Nodup

/-!
# Grouping loses nothing

Methods are grouped one after another: a method joins the group of its name unless it is there already,
and groups are listed by increasing name. So the groups divide the different methods of the list among
them, and each has its methods in the order in which they occur first.

* **`AccessorGroups.addMethod`** — one iteration, and what it does to the group of each name;
* **`AccessorGroups.get?_collect`** — the group of each name after all iterations;
* **`AccessorGroups.listed_collect`** — the groups are those of the names that occur;
* **`AccessorGroups.Grouped`** — what the groups of a list have to be, which leaves no choice;
* **`AccessorGroups.collect_grouped`** — methods are grouped so.
-/

namespace AccessorSchema

/-- At the end of a list, `methodsNamed name` takes a method that has the name and is new. -/
theorem methodsNamed_concat (name : String) (methods : List Method) (m : Method) :
    methodsNamed name (methods ++ [m]) =
      if name = m.name then
        if m ∈ methodsNamed name methods then methodsNamed name methods
        else methodsNamed name methods ++ [m]
      else methodsNamed name methods := by
  rw [methodsNamed, List.filter_append, List.filter_singleton]
  by_cases hname : name = m.name
  · rw [if_pos hname, decide_eq_true hname.symm]
    exact distinct_concat _ m
  · rw [if_neg hname, decide_eq_false (Ne.symm hname)]
    exact congrArg distinct (List.append_nil _)

namespace AccessorGroups

variable {methods : List Method} {name : String}

/-! ## Iterations -/

/-- One iteration, `addMethod groups m`: the method `m` joins the group of its name, unless it is
there already. -/
def addMethod (groups : OrderedMap String (List Method)) (m : Method) : OrderedMap String (List Method) :=
  let group := (groups.get? m.name).getD []
  groups.insert m.name (if m ∈ group then group else group ++ [m])

/-- `collect methods`: the groups after an `addMethod` for each of the `methods`. -/
def collect (methods : List Method) : OrderedMap String (List Method) := methods.foldl addMethod ∅

theorem collect_concat (methods : List Method) (m : Method) :
    collect (methods ++ [m]) = addMethod (collect methods) m := by
  rw [collect, List.foldl_append]
  rfl

/-- **What `addMethod` does**: the group of the name has `m`, and others are left alone. -/
theorem get?_addMethod (groups : OrderedMap String (List Method)) (m : Method) (name : String) :
    (addMethod groups m).get? name =
      if name = m.name then
        let group := (groups.get? name).getD []
        some (if m ∈ group then group else group ++ [m])
      else groups.get? name := by
  rw [addMethod, OrderedMap.get?_insert]
  by_cases hname : name = m.name
  · subst hname
    rfl
  · rw [if_neg hname, if_neg hname]

/-- **After all iterations a name that occurs has `methodsNamed` for a group**, and no other has
one. -/
theorem get?_collect (methods : List Method) (name : String) :
    (collect methods).get? name =
      if name ∈ methods.map Method.name then some (methodsNamed name methods) else none := by
  induction methods using List.reverseRecOn with
  | nil => rfl
  | append_singleton methods m ih =>
    -- A name that has not occurred is taken for one with an empty group, and no method has it.
    have hgroup : ((collect methods).get? name).getD [] = methodsNamed name methods := by
      rw [ih]
      by_cases hmem : name ∈ methods.map Method.name
      · rw [if_pos hmem, Option.getD_some]
      · rw [if_neg hmem, methodsNamed_eq_nil_iff.2 hmem, Option.getD_none]
    rw [collect_concat, get?_addMethod, hgroup, methodsNamed_concat, ih]
    by_cases hname : name = m.name
    · simp [hname]
    · simp [hname]

/-! ## The groups as they are listed -/

/-- `listed`: the groups of a map as `AccessorGroups`, by increasing name. -/
def listed (collected : OrderedMap String (List Method)) : AccessorGroups :=
  collected.entries.map fun e => ⟨e.1, e.2⟩

/-- The `keys` of `collect methods` are the names that occur, in increasing order. -/
theorem keys_collect (methods : List Method) :
    (collect methods).keys = (OrderedSet.ofList (methods.map Method.name)).toList := by
  -- A set is settled by its elements, and the keys of a map are in the order of a set.
  let keys : OrderedSet String := ⟨(collect methods).keys, List.pairwise_map.2 (collect methods).increasing⟩
  have hkeys : keys = OrderedSet.ofList (methods.map Method.name) := by
    refine OrderedSet.ext_mem fun name => ?_
    have hmem : name ∈ keys ↔ ((collect methods).get? name).isSome := OrderedMap.mem_keys_iff
    rw [hmem, get?_collect, OrderedSet.mem_ofList]
    by_cases hname : name ∈ methods.map Method.name
    · simp [hname]
    · simp [hname]
  exact congrArg OrderedSet.toList hkeys

/-- **The iterations lead to `ofMethods`**, the groups of the names that occur. -/
theorem listed_collect (methods : List Method) : listed (collect methods) = ofMethods methods := by
  rw [ofMethods, ← keys_collect, OrderedMap.keys, List.map_map]
  refine List.map_congr_left fun e he => ?_
  have hget : (collect methods).get? e.1 = some e.2 := OrderedMap.get?_of_mem_entries he
  rw [get?_collect] at hget
  split at hget
  · exact congrArg (AccessorGroup.mk e.1) (Option.some.inj hget).symm
  · cases hget

/-! ## What groups have to be -/

/-- **`Grouped methods groups`**: the `groups` are those of the `methods`. -/
structure Grouped (methods : List Method) (groups : AccessorGroups) : Prop where
  /-- Groups are listed by increasing `codePoints` of their names, one for each name. -/
  increasing : (groups.map (·.name)).Pairwise fun a b => codePoints a < codePoints b
  mem_names_iff : ∀ name, name ∈ groups.map (·.name) ↔ name ∈ methods.map Method.name
  nonempty : ∀ g ∈ groups, g.methods ≠ []
  /-- A group holds the methods of its `name`. -/
  mem_iff : ∀ g ∈ groups, ∀ m, m ∈ g.methods ↔ m ∈ methods ∧ m.name = g.name
  nodup : ∀ g ∈ groups, g.methods.Nodup
  /-- Methods stand in the order of `idxOf`, that of their first occurrence. -/
  ordered : ∀ g ∈ groups, g.methods.Pairwise fun a b => methods.idxOf a < methods.idxOf b

/-- `methodsNamed name` selects from the `distinct` methods. -/
theorem methodsNamed_eq_filter (name : String) (methods : List Method) :
    methodsNamed name methods = (distinct methods).filter (·.name = name) :=
  distinct_filter _ methods

/-- The groups of `ofMethods` are `Grouped`. -/
theorem grouped_ofMethods (methods : List Method) : Grouped methods (ofMethods methods) where
  increasing := by
    rw [map_name_ofMethods]
    exact OrderedSet.pairwise_codePoints _
  mem_names_iff name := by rw [map_name_ofMethods, ← OrderedSet.mem_iff, OrderedSet.mem_ofList]
  nonempty g hg := by
    obtain ⟨name, hname, rfl⟩ := mem_ofMethods.1 hg
    exact fun hnil => methodsNamed_eq_nil_iff.1 hnil hname
  mem_iff g hg m := by
    obtain ⟨name, -, rfl⟩ := mem_ofMethods.1 hg
    exact mem_methodsNamed
  nodup g hg := by
    obtain ⟨name, -, rfl⟩ := mem_ofMethods.1 hg
    exact nodup_distinct _
  ordered g hg := by
    obtain ⟨name, -, rfl⟩ := mem_ofMethods.1 hg
    rw [AccessorGroup.ofMethods_methods, methodsNamed_eq_filter]
    exact (pairwise_idxOf_distinct methods).sublist List.filter_sublist

namespace Grouped

variable {groups groups' : AccessorGroups} {g g' : AccessorGroup} {n : String}

theorem pairwise_codePoints (h : Grouped methods groups) :
    groups.Pairwise fun g g' => codePoints g.name < codePoints g'.name := by
  simpa only [List.pairwise_map] using h.increasing

/-- **`get? n` finds the group of the name `n`.** -/
theorem get?_eq_some_iff (h : Grouped methods groups) :
    groups.get? n = some g ↔ g ∈ groups ∧ g.name = n := by
  refine find?_key_eq_some_iff (h.increasing.imp ?_)
  rintro a b hlt rfl
  exact lt_irrefl _ hlt

/-- For a name that does not occur, `get?` answers `none`. -/
theorem get?_eq_none_iff (h : Grouped methods groups) :
    groups.get? n = none ↔ n ∉ methods.map Method.name := by
  rw [AccessorGroups.get?, List.find?_eq_none, ← h.mem_names_iff, List.mem_map, not_exists]
  simp

/-- **The groups have all methods, each in one place**: together they are a permutation of the
`distinct` ones. -/
theorem perm_distinct (h : Grouped methods groups) :
    (groups.flatMap (·.methods)).Perm (distinct methods) := by
  have hnodup : (groups.flatMap (·.methods)).Nodup := by
    refine List.nodup_flatMap.2 ⟨h.nodup, h.pairwise_codePoints.imp_of_mem ?_⟩
    intro g g' hg hg' hlt m hm hm'
    -- A method in two groups would give them one name.
    have hname : g.name = g'.name := ((h.mem_iff g hg m).1 hm).2.symm.trans ((h.mem_iff g' hg' m).1 hm').2
    rw [hname] at hlt
    exact lt_irrefl _ hlt
  refine (List.perm_ext_iff_of_nodup hnodup (nodup_distinct methods)).2 fun m => ?_
  rw [List.mem_flatMap, mem_distinct]
  constructor
  · rintro ⟨g, hg, hm⟩
    exact ((h.mem_iff g hg m).1 hm).1
  · intro hm
    obtain ⟨g, hg, hname⟩ := List.mem_map.1 ((h.mem_names_iff m.name).2 (List.mem_map_of_mem hm))
    exact ⟨g, hg, (h.mem_iff g hg m).2 ⟨hm, hname.symm⟩⟩

/-- A group is one of `groups'` however the `methods` are grouped in them. -/
theorem mem_of_grouped (h : Grouped methods groups) (h' : Grouped methods groups') (hg : g ∈ groups) :
    g ∈ groups' := by
  have hname : g.name ∈ groups'.map (·.name) :=
    (h'.mem_names_iff g.name).2 ((h.mem_names_iff g.name).1 (List.mem_map_of_mem hg))
  obtain ⟨g', hg', hname⟩ := List.mem_map.1 hname
  have hmethods : g'.methods = g.methods := by
    refine eq_of_pairwise_asymm (fun _ _ => Nat.lt_asymm) (h'.ordered g' hg') (h.ordered g hg) fun m => ?_
    rw [h'.mem_iff g' hg', h.mem_iff g hg, hname]
  obtain rfl : g' = g := by
    cases g
    cases g'
    exact congrArg₂ AccessorGroup.mk hname hmethods
  exact hg'

/-- **`Grouped` has one solution** for a list of methods. -/
theorem unique (h : Grouped methods groups) (h' : Grouped methods groups') : groups = groups' := by
  refine eq_of_pairwise_asymm (fun _ _ => lt_asymm) h.pairwise_codePoints h'.pairwise_codePoints fun g => ?_
  exact ⟨h.mem_of_grouped h', h'.mem_of_grouped h⟩

end Grouped

/-- **Grouping loses nothing.** The iterations of `collect` lead to `ofMethods`, groups by strictly
increasing names, one for each name that occurs, and each group is the sequence of the first
occurrences of the `distinct` methods of its name. For a name that occurs `get?` finds its group and
for no other name does it find one, and the methods of all groups are the `distinct` methods of the
list, each once. -/
theorem collect_grouped (methods : List Method) :
    listed (collect methods) = ofMethods methods ∧
      Grouped methods (ofMethods methods) ∧
      (∀ name ∈ methods.map Method.name, ∃ g ∈ ofMethods methods,
        g.name = name ∧ g.methods = (distinct methods).filter (·.name = name) ∧
          (ofMethods methods).get? name = some g) ∧
      (∀ name, name ∉ methods.map Method.name → (ofMethods methods).get? name = none) ∧
      ((ofMethods methods).flatMap (·.methods)).Perm (distinct methods) := by
  have hgrouped : Grouped methods (ofMethods methods) := grouped_ofMethods methods
  refine ⟨listed_collect methods, hgrouped, fun name hname => ?_, fun name => hgrouped.get?_eq_none_iff.2,
    hgrouped.perm_distinct⟩
  have hg : AccessorGroup.ofMethods name methods ∈ ofMethods methods :=
    mem_ofMethods.2 ⟨name, hname, rfl⟩
  exact ⟨_, hg, rfl, methodsNamed_eq_filter name methods, hgrouped.get?_eq_some_iff.2 ⟨hg, rfl⟩⟩

end AccessorGroups

end AccessorSchema
