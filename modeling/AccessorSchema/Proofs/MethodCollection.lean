import AccessorSchema.Proofs.Distance
import AccessorSchema.Proofs.FirstOccurrence
import AccessorSchema.Proofs.OwnDeclarations

/-!
# Collecting the methods of a type

The methods visible on a type are collected type by type. Declarations are looked up as their types come
from the queue, and a supertype without declaration is passed over; the hierarchy, which has been made of
all declarations before, is asked in no place. Both come to the same types, in the same order.

* **`Catalog.directSupertypes_hierarchy`** — in the hierarchy a type has the supertypes it is declared
  with;
* **`MethodSearch`** — the collection in the middle of its work, and what one iteration does;
* **`MethodSearch.exists_endsAfter`** — it ends, and has collected the methods of the types that a visit
  of the hierarchy lists;
* **`Catalog.Collected`** — which methods are collected, and in which order;
* **`Catalog.methodSet?_collected`** — the methods of a declared type are collected so.
-/

namespace AccessorSchema

/-! ## The hierarchy of a catalog -/

namespace TypeHierarchy

/-- The hierarchy of `ofDeclarations` is the list of its declarations. -/
theorem ofDeclarations_eq (l : List (TypeName × List TypeName)) : ofDeclarations l = ⟨l⟩ := by
  induction l using List.reverseRecOn with
  | nil => rfl
  | append_singleton l d ih =>
    unfold ofDeclarations at ih ⊢
    rw [List.foldl_append, ih]
    rfl

end TypeHierarchy

namespace Catalog

variable (c : Catalog) {t : TypeName}

/-- `declarationOf t`: the declaration of a type; a type that is not declared has neither supertypes
nor methods. -/
def declarationOf (t : TypeName) : TypeDeclaration := (c.get? t).getD { name := t }

theorem declarationOf_of_get? {d : TypeDeclaration} (h : c.get? t = some d) :
    c.declarationOf t = d := by
  rw [declarationOf, h, Option.getD_some]

/-- The `declarations` of the hierarchy are those of the declared types, in the order of their
`names`. -/
theorem declarations_hierarchy :
    c.hierarchy.declarations = c.names.map fun t => (t, (c.declarationOf t).supertypes) := by
  have hvalues : c.types.values = c.names.map c.declarationOf := by
    refine OrderedMap.values_eq_map_keys fun t ht => ?_
    obtain ⟨d, hd⟩ := Option.isSome_iff_exists.1 (OrderedMap.mem_keys_iff.1 ht)
    rw [hd, c.declarationOf_of_get? hd]
  rw [hierarchy, TypeHierarchy.ofDeclarations_eq, hvalues, List.map_map]
  refine List.map_congr_left fun t ht => ?_
  obtain ⟨d, hd⟩ := Option.isSome_iff_exists.1 (OrderedMap.mem_keys_iff.1 ht)
  simp only [Function.comp, c.declarationOf_of_get? hd, c.name_eq t d hd]

/-- **In the `hierarchy` a type has the supertypes of its declaration.** -/
theorem directSupertypes_hierarchy (t : TypeName) :
    c.hierarchy.directSupertypes t = (c.declarationOf t).supertypes := by
  by_cases ht : t ∈ c.names
  · -- The name of the type is listed once.
    have hcount : c.names.count t = 1 := List.count_eq_one_of_mem c.types.nodup_keys ht
    have hnames : c.names.filter (· = t) = [t] := by
      rw [List.filter_eq, hcount, List.replicate_one]
    rw [TypeHierarchy.directSupertypes, declarations_hierarchy, List.filter_map]
    simp [Function.comp_def, hnames]
  · have hnone : c.get? t = none := by
      rw [← Option.not_isSome_iff_eq_none]
      exact fun h => ht (OrderedMap.mem_keys_iff.2 h)
    rw [TypeHierarchy.directSupertypes_eq_nil, declarationOf, hnone]
    · rfl
    · rw [declarations_hierarchy, List.map_map]
      simpa using ht

end Catalog

/-! ## The collection -/

section New

variable {α : Type} [DecidableEq α]

/-- `addNew l new`: the list `l` with the elements of `new` added one by one, without those that it
has already. -/
def addNew (l new : List α) : List α := new.foldl (fun l a => if a ∈ l then l else l ++ [a]) l

/-- **`addNew` leaves of all elements the first occurrences.** -/
theorem addNew_distinct (l new : List α) : addNew (distinct l) new = distinct (l ++ new) := by
  induction new generalizing l with
  | nil => rw [List.append_nil]; rfl
  | cons a new ih =>
    calc addNew (distinct l) (a :: new)
        = addNew (distinct (l ++ [a])) new := congrArg (addNew · new) (distinct_concat l a).symm
      _ = distinct (l ++ [a] ++ new) := ih _
      _ = distinct (l ++ a :: new) := by rw [List.append_assoc, List.singleton_append]

end New

/-- The `methods` of a type in the middle of being collected: those found, the types that have been
`visited`, and those to come in the `queue`. -/
structure MethodSearch where
  methods : List Method := []
  visited : List TypeName := []
  queue : List TypeName := []

namespace MethodSearch

/-- One iteration, `visit c s t rest`, for the first type `t` of the queue: a type that has been
visited is passed over, and of one without declaration it is only noted that it has been visited. -/
def visit (c : Catalog) (s : MethodSearch) (t : TypeName) (rest : List TypeName) : MethodSearch :=
  if t ∈ s.visited then { s with queue := rest }
  else
    match c.get? t with
    | none => { s with visited := t :: s.visited, queue := rest }
    | some d =>
      { methods := addNew s.methods d.ownMethods
        visited := t :: s.visited
        queue := rest ++ d.supertypes }

/-- **`EndsAfter c n s last`**: the loop that begins with `s` ends after `n` iterations, with the
state `last`. -/
inductive EndsAfter (c : Catalog) : Nat → MethodSearch → MethodSearch → Prop
  /-- No type is left in the `queue`. -/
  | idle {s : MethodSearch} (idle : s.queue = []) : EndsAfter c 0 s s
  /-- One iteration, `visit`, and those that follow it. -/
  | next {n : Nat} {s last : MethodSearch} {t : TypeName} {rest : List TypeName}
      (pending : s.queue = t :: rest) (ends : EndsAfter c n (s.visit c t rest) last) :
      EndsAfter c (n + 1) s last

variable (c : Catalog) {found : List Method} {seen queue : List TypeName} {t : TypeName}

/-- A type that has been `visited` is passed over. -/
theorem visit_of_mem (h : t ∈ seen) :
    visit c ⟨distinct found, seen, t :: queue⟩ t queue = ⟨distinct found, seen, queue⟩ :=
  if_pos h

/-- **A type that is new adds its `ownMethods`, and its supertypes in the hierarchy wait**, whether
it is declared or not. -/
theorem visit_of_not_mem (h : t ∉ seen) :
    visit c ⟨distinct found, seen, t :: queue⟩ t queue =
      ⟨distinct (found ++ c.ownMethods t), t :: seen, queue ++ c.hierarchy.graph.next t⟩ := by
  have hnext : c.hierarchy.graph.next t = (c.declarationOf t).supertypes :=
    c.directSupertypes_hierarchy t
  rw [visit, if_neg h, hnext, Catalog.ownMethods, Catalog.declarationOf]
  cases c.get? t with
  | none => simp
  | some d => simp [addNew_distinct]

/-- **The loop ends and has collected the `ownMethods` of the types that `visitFrom` lists.** It
takes an iteration for each type of the queue and for each supertype that joins it. -/
theorem endsAfter_visitFrom (found : List Method) (seen queue : List TypeName) :
    EndsAfter c
      (queue.length +
        ((c.hierarchy.graph.visitFrom seen queue).map fun u => (c.hierarchy.graph.next u).length).sum)
      ⟨distinct found, seen, queue⟩
      ⟨distinct (found ++ (c.hierarchy.graph.visitFrom seen queue).flatMap c.ownMethods),
        (c.hierarchy.graph.visitFrom seen queue).reverse ++ seen, []⟩ := by
  fun_induction c.hierarchy.graph.visitFrom seen queue generalizing found with
  | case1 seen =>
    rw [List.flatMap_nil, List.append_nil]
    exact .idle rfl
  | case2 seen t queue ht ih =>
    rw [List.length_cons, Nat.add_right_comm]
    refine .next rfl ?_
    rw [visit_of_mem c ht]
    exact ih found
  | case3 seen t queue ht ih =>
    -- The supertypes that join the queue are counted once more when they come up.
    have hstep := ih (found ++ c.ownMethods t)
    rw [← visit_of_not_mem c ht] at hstep
    simpa [Nat.add_assoc, Nat.add_comm, Nat.add_left_comm] using EndsAfter.next rfl hstep

end MethodSearch

/-! ## What is collected -/

namespace Catalog

variable {c : Catalog} {t : TypeName} {d : Method}

/-- **`Collected c t methods`: which methods are collected for a type `t`, and in which order**, by
the number of supertype steps that lead to the types that declare them. -/
structure Collected (c : Catalog) (t : TypeName) (methods : List Method) : Prop where
  nodup : methods.Nodup
  /-- A method is one of a declared supertype `u`, with `u` for its `declaringType`. -/
  mem_iff : ∀ d, d ∈ methods ↔ ∃ u declaration, c.get? u = some declaration ∧
    c.hierarchy.isSubtype t u = true ∧ ∃ own ∈ declaration.methods, d = own.onType u
  /-- The type that declares a method has a `Distance` from `t`. -/
  distant : ∀ d ∈ methods, ∃ n, c.hierarchy.graph.Distance t d.declaringType n
  /-- No method is listed before one that is declared at a smaller `Distance`. -/
  sorted : methods.Pairwise fun d e => ∀ i j, c.hierarchy.graph.Distance t d.declaringType i →
    c.hierarchy.graph.Distance t e.declaringType j → i ≤ j
  /-- Methods that `t` declares itself come first. -/
  own_first : methods.Pairwise fun d e => e.declaringType = t → d.declaringType = t

/-- The type that declares one of `visibleMethods` has a distance, because it can be reached. -/
theorem exists_distance_of_mem_visibleMethods (hd : d ∈ c.visibleMethods t) :
    ∃ n, c.hierarchy.graph.Distance t d.declaringType n :=
  FiniteGraph.exists_distance_iff.2 (TypeHierarchy.isSubtype_iff.1 (mem_visibleMethods_iff.1 hd).1)

/-- **`visibleMethods` stand in the order of the types that declare them**, in whichever way `visit`
has these types in order. -/
theorem pairwise_visibleMethods_of_visit {R : TypeName → TypeName → Prop} (hself : ∀ u, R u u)
    (hvisit : (c.hierarchy.graph.visit t).Pairwise R) :
    (c.visibleMethods t).Pairwise fun d e => R d.declaringType e.declaringType := by
  refine List.Pairwise.sublist (distinct_sublist _) (List.pairwise_flatMap.2 ⟨fun u _ => ?_, ?_⟩)
  · refine List.pairwise_of_forall_mem_list fun d hd e he => ?_
    rw [declaringType_of_mem_ownMethods hd, declaringType_of_mem_ownMethods he]
    exact hself u
  · refine hvisit.imp fun {u v} huv d hd e he => ?_
    rwa [declaringType_of_mem_ownMethods hd, declaringType_of_mem_ownMethods he]

/-- **`visibleMethods` stand in the order of the distances** of the types that declare them. -/
theorem pairwise_visibleMethods (c : Catalog) (t : TypeName) :
    (c.visibleMethods t).Pairwise fun d e => ∀ i j,
      c.hierarchy.graph.Distance t d.declaringType i →
        c.hierarchy.graph.Distance t e.declaringType j → i ≤ j :=
  pairwise_visibleMethods_of_visit (fun _ _ _ hi hj => (hi.unique hj).le)
    (c.hierarchy.graph.pairwise_visit t)

/-- What is to be `Collected` are the `visibleMethods`. -/
theorem collected_visibleMethods (c : Catalog) (t : TypeName) : c.Collected t (c.visibleMethods t) where
  nodup := nodup_distinct _
  mem_iff := fun d => by
    rw [mem_visibleMethods_iff, mem_ownMethods_iff]
    constructor
    · rintro ⟨hsub, declaration, hget, own, hown, hd⟩
      exact ⟨d.declaringType, declaration, hget, hsub, own, hown, hd⟩
    · rintro ⟨u, declaration, hget, hsub, own, hown, rfl⟩
      exact ⟨hsub, declaration, hget, own, hown, rfl⟩
  distant := fun _ hd => exists_distance_of_mem_visibleMethods hd
  sorted := c.pairwise_visibleMethods t
  own_first := by
    refine (c.pairwise_visibleMethods t).imp_of_mem fun {d e} hd _ hle heown => ?_
    obtain ⟨i, hi⟩ := exists_distance_of_mem_visibleMethods hd
    -- Only the type itself is at no distance.
    obtain rfl : i = 0 := Nat.le_zero.1 (hle i 0 hi (FiniteGraph.distance_zero_iff.2 heown))
    exact FiniteGraph.distance_zero_iff.1 hi

/-- **The methods of a type are collected from its supertypes, nearer ones first.** A type has a
`methodSet?` exactly if it is declared; the loop of `MethodSearch` then ends, whatever supertypes
are declared, with the methods of the type, and these are `Collected`: those of the declared types
that the hierarchy has above it, each once and by increasing distance. -/
theorem methodSet?_collected (c : Catalog) (t : TypeName) :
    (c.methodSet? t = none ↔ c.contains t = false) ∧
      ∀ m, c.methodSet? t = some m →
        (∃ n last, MethodSearch.EndsAfter c n { queue := [t] } last ∧ last.methods = m.methods) ∧
          c.Collected t m.methods := by
  refine ⟨?_, fun m hm => ?_⟩
  · rw [← methodSet?_isSome, Option.isSome_eq_false_iff, Option.isNone_iff_eq_none]
  · rw [methods_of_methodSet? hm]
    exact ⟨⟨_, _, MethodSearch.endsAfter_visitFrom c [] [] [t], rfl⟩, c.collected_visibleMethods t⟩

/-- Two types `A` and `B` above each other, with a supertype that is repeated and one that is not
declared. -/
def tangled : Catalog where
  types :=
    ⟨[("A", { name := "A", supertypes := ["B"], methods := [{ name := "getX", returns := "int" }] }),
      ("B", { name := "B", supertypes := ["U", "A", "A"],
              methods := [{ name := "getX", returns := "int" }, { name := "getX", returns := "int" }] })],
      by decide⟩
  name_eq := by
    intro name d h
    simp only [OrderedMap.get?, OrderedMap.lookup] at h
    grind

example : (tangled.methodSet? "B").map (·.methods.map (·.declaringType)) = some ["B", "A"] := by cbv

end Catalog

end AccessorSchema
