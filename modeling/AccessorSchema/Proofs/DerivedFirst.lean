import AccessorSchema.Proofs.Levels
import AccessorSchema.Proofs.MethodCollection

/-!
# Which types come first

Methods are collected in the order in which the types that declare them turn up, level by level, in the
supertypes of a type. That one of two types is a subtype of the other has no part in it. A supertype
comes before its subtype, with all its methods, if it can be reached in fewer steps, or in as many by a
declaration that stands farther to the front.

* **`TypePrecedes`** — all methods of one type stand before all methods of another;
* **`Catalog.methods_precede_iff`** — the methods of a subtype precede those of a supertype exactly if the
  subtype turns up sooner;
* `Catalog.bypass` — a type that declares a supertype beside a longer way to it, so that the supertype
  comes before its subtype;
* **`Catalog.methods_precede_of_single`** — with one direct supertype at most for every type, derived
  types do come first.
-/

namespace AccessorSchema

/-! ## The order of methods -/

/-- **All `methods` that `s` declares stand before all that `t` declares.** -/
def TypePrecedes (methods : List Method) (s t : TypeName) : Prop :=
  ∀ i j (hi : i < methods.length) (hj : j < methods.length),
    methods[i].declaringType = s → methods[j].declaringType = t → i < j

namespace Catalog

variable {c : Catalog} {s t u : TypeName} {m : MethodSet}

/-- `c.visibleMethods t` lists methods in the order in which the types that declare them turn up
(`Sooner`). -/
theorem pairwise_sooner_visibleMethods (c : Catalog) (t : TypeName) :
    (c.visibleMethods t).Pairwise fun d e =>
      d.declaringType = e.declaringType ∨
        c.hierarchy.graph.Sooner t d.declaringType e.declaringType := by
  have hvisit : (c.hierarchy.graph.visit t).Pairwise fun u v =>
      u = v ∨ c.hierarchy.graph.Sooner t u v :=
    (c.hierarchy.graph.pairwise_sooner_visit t).imp .inr
  exact pairwise_visibleMethods_of_visit (fun _ => Or.inl rfl) hvisit

/-- The visible methods of `s` precede those of a type `u` that turns up later. -/
theorem typePrecedes_of_sooner (h : c.hierarchy.graph.Sooner t s u) :
    TypePrecedes (c.visibleMethods t) s u := by
  intro i j hi hj hs hu
  rcases Nat.lt_trichotomy i j with hij | rfl | hji
  · exact hij
  · rw [← hs, ← hu] at h
    exact absurd h h.asymm
  · rcases List.pairwise_iff_getElem.1 (c.pairwise_sooner_visibleMethods t) j i hj hi hji with
      heq | hlater
    · rw [← hs, ← hu, heq] at h
      exact absurd h h.asymm
    · rw [hs, hu] at hlater
      exact absurd h hlater.asymm

/-- The type `s` that declares a visible method of `t` can be reached from `t`. -/
theorem leads_of_mem_visibleMethods (hs : ∃ d ∈ c.visibleMethods t, d.declaringType = s) :
    c.hierarchy.graph.Leads t s := by
  obtain ⟨d, hd, rfl⟩ := hs
  exact TypeHierarchy.isSubtype_iff.1 (mem_visibleMethods_iff.1 hd).1

/-- **The methods of a subtype `s` precede those of a supertype `u` exactly if `s` turns up
`Sooner`** in the row of levels of `t`, the type they are collected for: in fewer supertype steps,
or in as many and farther to the front in the order in which supertypes are declared. Otherwise they
come after those of the supertype. -/
theorem methods_precede_iff (hm : c.methodSet? t = some m)
    (hsub : c.hierarchy.isProperSubtype s u = true) (hs : ∃ d ∈ m.methods, d.declaringType = s)
    (hu : ∃ d ∈ m.methods, d.declaringType = u) :
    (TypePrecedes m.methods s u ↔ c.hierarchy.graph.Sooner t s u) ∧
      (¬ c.hierarchy.graph.Sooner t s u → TypePrecedes m.methods u s) := by
  rw [methods_of_methodSet? hm] at hs hu ⊢
  have hne : s ≠ u := (TypeHierarchy.isProperSubtype_iff.1 hsub).1
  have hother : ¬ c.hierarchy.graph.Sooner t s u → TypePrecedes (c.visibleMethods t) u s := by
    intro hlate
    have hleads := FiniteGraph.sooner_or_sooner (leads_of_mem_visibleMethods hs)
      (leads_of_mem_visibleMethods hu) hne
    exact typePrecedes_of_sooner (hleads.resolve_left hlate)
  refine ⟨⟨fun hprec => Classical.byContradiction fun hlate => ?_, typePrecedes_of_sooner⟩, hother⟩
  -- Both types declare a method, and neither of the two can stand before the other.
  obtain ⟨d, hd, hds⟩ := hs
  obtain ⟨e, he, heu⟩ := hu
  obtain ⟨i, hi, rfl⟩ := List.getElem_of_mem hd
  obtain ⟨j, hj, rfl⟩ := List.getElem_of_mem he
  exact Nat.lt_asymm (hprec i j hi hj hds heu) (hother hlate j i hj hi heu hds)

/-- A type `T` with two supertypes, of which one is also a supertype of the other by way of a
third. -/
def bypass : Catalog where
  types :=
    ⟨[("A", { name := "A", supertypes := ["D"], methods := [{ name := "getX", returns := "int" }] }),
      ("D", { name := "D", supertypes := ["E"], methods := [{ name := "getX", returns := "int" }] }),
      ("E", { name := "E", methods := [{ name := "getX", returns := "int" }] }),
      ("T", { name := "T", supertypes := ["A", "E"] })],
      by decide⟩
  name_eq := by
    intro name d h
    simp only [OrderedMap.get?, OrderedMap.lookup] at h
    grind

/-- The methods of `T` in `bypass`: the supertype it declares itself comes before the one on the
way. -/
theorem bypass_methodSet? :
    bypass.methodSet? "T" = some
      { target := { name := "T", supertypes := ["A", "E"] }
        methods := ["A", "E", "D"].map fun t =>
          { name := "getX", declaringType := t, returnType := "int" } } := by
  cbv

/-- **A supertype can come before its subtype**, as in `bypass`, where no two types are subtypes of
each other. -/
theorem bypass_supertypeFirst :
    bypass.hierarchy.Antisymmetric ∧ bypass.hierarchy.isProperSubtype "D" "E" = true ∧
      ∃ m, bypass.methodSet? "T" = some m ∧ (∃ d ∈ m.methods, d.declaringType = "D") ∧
        (∃ d ∈ m.methods, d.declaringType = "E") ∧ ¬ TypePrecedes m.methods "D" "E" := by
  have hdeclarations : bypass.hierarchy.declarations =
      [("A", ["D"]), ("D", ["E"]), ("E", []), ("T", ["A", "E"])] := rfl
  refine ⟨?_, by cbv, _, bypass_methodSet?, by simp, by simp, fun h => ?_⟩
  · refine TypeHierarchy.antisymmetric_of_rank
      (fun t => if t = "T" then 3 else if t = "A" then 2 else if t = "D" then 1 else 0) ?_
    rw [hdeclarations]
    decide
  · exact absurd (h 2 1 (by decide) (by decide) rfl rfl) (by decide)

/-- **Both cases are there**: `A` turns up sooner than its supertype `E`, and `D` does not. -/
theorem bypass_ordered :
    ∃ m, bypass.methodSet? "T" = some m ∧ TypePrecedes m.methods "A" "E" ∧
      TypePrecedes m.methods "E" "D" := by
  -- `T` is declared with `A` before `E`, and not with `D`.
  have hnext : bypass.hierarchy.graph.next "T" = ["A", "E"] := by cbv
  have hsooner : bypass.hierarchy.graph.Sooner "T" "A" "E" :=
    FiniteGraph.sooner_of_idxOf_next (by simp [hnext]) (by decide) (by rw [hnext]; decide)
  have hlater : bypass.hierarchy.graph.Sooner "T" "E" "D" :=
    FiniteGraph.sooner_of_idxOf_next (by simp [hnext]) (by decide) (by rw [hnext]; decide)
  refine ⟨_, bypass_methodSet?, ?_, ?_⟩
  · exact (methods_precede_iff bypass_methodSet? (by cbv) (by simp) (by simp)).1.2 hsooner
  · exact (methods_precede_iff bypass_methodSet? (by cbv) (by simp) (by simp)).2 hlater.asymm

/-- **With one direct supertype at most for every type of `c`, derived types come first**, where no
two types are subtypes of each other. -/
theorem methods_precede_of_single (hanti : c.hierarchy.Antisymmetric)
    (hsingle : ∀ t d, c.get? t = some d → d.supertypes.length ≤ 1) (hm : c.methodSet? t = some m)
    (hsub : c.hierarchy.isProperSubtype s u = true) : TypePrecedes m.methods s u := by
  have hnext : ∀ t, (c.hierarchy.graph.next t).length ≤ 1 := by
    intro t
    rw [show c.hierarchy.graph.next t = _ from c.directSupertypes_hierarchy t, declarationOf]
    cases hget : c.get? t with
    | none => simp
    | some d => exact hsingle t d hget
  rw [methods_of_methodSet? hm]
  intro i j hi hj hs hu
  have hleads := leads_of_mem_visibleMethods ⟨_, List.getElem_mem hi, hs⟩
  obtain ⟨hne, hsu⟩ := TypeHierarchy.isProperSubtype_iff.1 hsub
  have hback : ¬ c.hierarchy.graph.Leads u s := fun hus =>
    hne (hanti s u hsu (TypeHierarchy.isSubtype_iff.2 hus))
  exact typePrecedes_of_sooner (FiniteGraph.sooner_of_not_leads hnext hleads hback) i j hi hj hs hu

end Catalog

end AccessorSchema
