import AccessorSchema.Accessor
import AccessorSchema.Proofs.Conflict

/-!
# Groups of methods and accessors, as sets of methods

* **`methodsNamed`** — the different methods of one name, by first occurrence;
* **`AccessorGroups.mem_ofMethods`** — the groups are those of the names that occur;
* **`AccessorGroups.get?_ofMethods`** — looking up a name finds its group, if the name occurs;
* **`Accessor.mem_getters_iff`** — an accessor keeps one method for each name it declares, the most
  specific of that name.
-/

namespace AccessorSchema

/-! ## Methods of one name -/

/-- `methodsNamed name methods`: the different methods of one name, in the order of their first
occurrence. -/
def methodsNamed (name : String) (methods : List Method) : List Method :=
  distinct (methods.filter (·.name = name))

@[simp] theorem AccessorGroup.ofMethods_name (name : String) (methods : List Method) :
    (AccessorGroup.ofMethods name methods).name = name := rfl

@[simp] theorem AccessorGroup.ofMethods_methods (name : String) (methods : List Method) :
    (AccessorGroup.ofMethods name methods).methods = methodsNamed name methods := rfl

@[simp] theorem mem_methodsNamed {name : String} {methods : List Method} {m : Method} :
    m ∈ methodsNamed name methods ↔ m ∈ methods ∧ m.name = name := by
  rw [methodsNamed, mem_distinct, List.mem_filter, decide_eq_true_eq]

/-- `methodsNamed name` is empty exactly if the name does not occur. -/
theorem methodsNamed_eq_nil_iff {name : String} {methods : List Method} :
    methodsNamed name methods = [] ↔ name ∉ methods.map Method.name := by
  rw [List.eq_nil_iff_forall_not_mem]
  constructor
  · intro h hn
    obtain ⟨m, hm, hname⟩ := List.mem_map.1 hn
    exact h m (mem_methodsNamed.2 ⟨hm, hname⟩)
  · intro h m hm
    obtain ⟨hmem, hname⟩ := mem_methodsNamed.1 hm
    exact h (hname ▸ List.mem_map_of_mem hmem)

/-- **`methodsNamed name` does not miss what is left out** by a choice of names that keeps
`name`. -/
theorem methodsNamed_filter {name : String} (keep : String → Bool) (hkeep : keep name = true)
    (methods : List Method) :
    methodsNamed name (methods.filter (keep ·.name)) = methodsNamed name methods := by
  rw [methodsNamed, methodsNamed, List.filter_filter]
  refine congrArg distinct (List.filter_congr fun m _ => ?_)
  by_cases hm : m.name = name
  · rw [hm, hkeep, Bool.and_true]
  · simp only [hm, decide_false, Bool.false_and]

/-! ## Groups -/

namespace AccessorGroups

/-- **The groups of `ofMethods` are those of the names that occur.** -/
theorem mem_ofMethods {methods : List Method} {g : AccessorGroup} :
    g ∈ AccessorGroups.ofMethods methods ↔
      ∃ name ∈ methods.map Method.name, g = AccessorGroup.ofMethods name methods := by
  unfold AccessorGroups.ofMethods
  rw [List.mem_map]
  constructor
  · rintro ⟨name, hname, rfl⟩
    exact ⟨name, OrderedSet.mem_ofList.1 (OrderedSet.mem_iff.2 hname), rfl⟩
  · rintro ⟨name, hname, rfl⟩
    exact ⟨name, OrderedSet.mem_iff.1 (OrderedSet.mem_ofList.2 hname), rfl⟩

/-- The names of the groups of `ofMethods` are those that occur, in increasing order. -/
theorem map_name_ofMethods (methods : List Method) :
    (AccessorGroups.ofMethods methods).map (·.name) =
      (OrderedSet.ofList (methods.map Method.name)).toList := by
  rw [AccessorGroups.ofMethods, List.map_map]
  exact List.map_id _

/-- No two groups of `ofMethods` have one name. -/
theorem nodup_names_ofMethods (methods : List Method) :
    ((AccessorGroups.ofMethods methods).map (·.name)).Nodup := by
  rw [map_name_ofMethods]
  exact OrderedSet.nodup_toList _

/-- **`get? name` finds the group of the name, if it occurs.** -/
theorem get?_ofMethods (methods : List Method) (name : String) :
    (AccessorGroups.ofMethods methods).get? name =
      if methodsNamed name methods = [] then none
      else some (AccessorGroup.ofMethods name methods) := by
  by_cases hnil : methodsNamed name methods = []
  · rw [if_pos hnil, AccessorGroups.get?, List.find?_eq_none]
    intro g hg
    obtain ⟨n, hn, rfl⟩ := mem_ofMethods.1 hg
    intro hname
    obtain rfl : n = name := of_decide_eq_true hname
    exact methodsNamed_eq_nil_iff.1 hnil hn
  · rw [if_neg hnil]
    have hname : name ∈ methods.map Method.name :=
      Classical.not_not.1 fun hn => hnil (methodsNamed_eq_nil_iff.2 hn)
    have hmem := mem_ofMethods.2 ⟨name, hname, rfl⟩
    exact (find?_key_eq_some_iff (nodup_names_ofMethods methods)).2 ⟨hmem, rfl⟩

end AccessorGroups

/-! ## Accessors -/

namespace Accessor

variable {h : TypeHierarchy} {declarations : List Method} {a : Accessor}

/-- What an accessor made by `ofDeclarations?` consists of. -/
theorem ofDeclarations?_eq_some_iff :
    Accessor.ofDeclarations? h declarations = some a ↔
      a.declarations = declarations ∧ h.mostSpecific? declarations = some a.mostSpecific ∧
        a.getters = (distinct (a.mostSpecific.name :: declarations.map Method.name)).filterMap
          fun n => h.mostSpecific? (declarations.filter (·.name = n)) := by
  unfold Accessor.ofDeclarations?
  cases hm : h.mostSpecific? declarations with
  | none => simp
  | some top =>
    obtain ⟨d, s, gs⟩ := a
    simp only [Option.bind_eq_bind, Option.bind_some, Option.pure_def, Option.some.injEq,
      Accessor.mk.injEq]
    constructor
    · rintro ⟨rfl, rfl, rfl⟩
      exact ⟨rfl, rfl, rfl⟩
    · rintro ⟨rfl, rfl, rfl⟩
      exact ⟨rfl, rfl, rfl⟩

/-- `ofDeclarations?` gives an accessor unless there are no declarations. -/
theorem exists_ofDeclarations? (h : TypeHierarchy) (hd : declarations ≠ []) :
    ∃ a, Accessor.ofDeclarations? h declarations = some a := by
  obtain ⟨top, htop⟩ := h.exists_mostSpecific? hd
  unfold Accessor.ofDeclarations?
  rw [htop]
  exact ⟨_, rfl⟩

variable (ha : Accessor.ofDeclarations? h declarations = some a)

include ha

theorem declarations_eq : a.declarations = declarations := (ofDeclarations?_eq_some_iff.1 ha).1

theorem mostSpecific?_eq : h.mostSpecific? declarations = some a.mostSpecific :=
  (ofDeclarations?_eq_some_iff.1 ha).2.1

/-- **`getters` keeps one method for each name, the `mostSpecific?` of that name.** -/
theorem mem_getters_iff {m : Method} :
    m ∈ a.getters ↔
      m ∈ declarations ∧ h.mostSpecific? (declarations.filter (·.name = m.name)) = some m := by
  obtain ⟨-, htop, hget⟩ := ofDeclarations?_eq_some_iff.1 ha
  rw [hget, List.mem_filterMap]
  constructor
  · rintro ⟨n, -, hm⟩
    obtain ⟨hmem, hname⟩ := List.mem_filter.1 (TypeHierarchy.mem_of_mostSpecific? hm)
    rw [decide_eq_true_eq] at hname
    exact ⟨hmem, hname ▸ hm⟩
  · rintro ⟨hmem, hm⟩
    have hname : m.name ∈ a.mostSpecific.name :: declarations.map Method.name :=
      List.mem_cons_of_mem _ (List.mem_map_of_mem hmem)
    exact ⟨m.name, mem_distinct.2 hname, hm⟩

/-- The `getters` that are kept are declarations. -/
theorem getters_subset : a.getters ⊆ declarations := fun _ hm => ((mem_getters_iff ha).1 hm).1

/-- For every declaration a method of its name is among the `getters`. -/
theorem exists_mem_getters {m : Method} (hm : m ∈ declarations) :
    ∃ g ∈ a.getters, g.name = m.name ∧
      h.mostSpecific? (declarations.filter (·.name = m.name)) = some g := by
  have hne : declarations.filter (·.name = m.name) ≠ [] :=
    List.ne_nil_of_mem (List.mem_filter.2 ⟨hm, by simp⟩)
  obtain ⟨g, hg⟩ := h.exists_mostSpecific? hne
  obtain ⟨hmem, hname⟩ := List.mem_filter.1 (TypeHierarchy.mem_of_mostSpecific? hg)
  rw [decide_eq_true_eq] at hname
  exact ⟨g, (mem_getters_iff ha).2 ⟨hmem, hname ▸ hg⟩, hname, hg⟩

end Accessor

end AccessorSchema
