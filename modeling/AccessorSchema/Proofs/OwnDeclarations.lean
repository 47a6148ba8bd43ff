import AccessorSchema.Proofs.ClosedReport
import AccessorSchema.Proofs.PrimaryGetter
import AccessorSchema.Proofs.PropertyContent
import AccessorSchema.Proofs.Specificity

/-!
# Own declarations win

The methods visible on a type are its own and those of its supertypes, which may be reached on several
ways. A choice among them never ends at an inherited method if there is one of the type itself: the own
method is more specific than any other, and the choice is not left for a method it cannot be compared
with.

* **`Catalog.mem_visibleMethods_iff`** — the methods visible on a type, by the types that declare them;
* **`TypeHierarchy.not_isProperSubtype_of_mostSpecific?`** — no method is declared below the most
  specific one;
* **`TypeHierarchy.declaringType_of_mostSpecific?`** — among the methods of a type and its supertypes the
  most specific one is the type's own, if there is one;
* **`BoundProperty.DecidedBy`** — a type that declares the first getter, and a getter that returns the
  value type;
* **`Configuration.own_declarations_win`** — a type decides on every property it declares a getter of.
-/

namespace AccessorSchema

/-! ## Visible methods -/

namespace Catalog

variable {c : Catalog} {t : TypeName} {d : Method} {m : MethodSet}

/-- The `ownMethods` of a type are those of its declaration. -/
theorem mem_ownMethods_iff :
    d ∈ c.ownMethods t ↔
      ∃ declaration, c.get? t = some declaration ∧ ∃ own ∈ declaration.methods, d = own.onType t := by
  unfold ownMethods
  cases hget : c.get? t with
  | none => simp
  | some declaration =>
    have hname : declaration.name = t := c.name_eq t declaration hget
    simp [TypeDeclaration.ownMethods, hname, eq_comm]

/-- The `ownMethods` of a type are declared by it. -/
theorem declaringType_of_mem_ownMethods (hd : d ∈ c.ownMethods t) : d.declaringType = t := by
  obtain ⟨declaration, -, own, -, rfl⟩ := mem_ownMethods_iff.1 hd
  rfl

/-- **`visibleMethods` of a type are those of the types that it `isSubtype` of**, and no others. -/
theorem mem_visibleMethods_iff :
    d ∈ c.visibleMethods t ↔
      c.hierarchy.isSubtype t d.declaringType = true ∧ d ∈ c.ownMethods d.declaringType := by
  rw [visibleMethods, mem_distinct, List.mem_flatMap, TypeHierarchy.isSubtype, decide_eq_true_eq]
  constructor
  · rintro ⟨u, hu, hd⟩
    obtain rfl : d.declaringType = u := declaringType_of_mem_ownMethods hd
    exact ⟨hu, hd⟩
  · rintro ⟨hu, hd⟩
    exact ⟨d.declaringType, hu, hd⟩

/-- The methods of a `methodSet?` are the `visibleMethods`. -/
theorem methods_of_methodSet? (hm : c.methodSet? t = some m) : m.methods = c.visibleMethods t := by
  obtain ⟨declaration, -, rfl⟩ := Option.map_eq_some_iff.1 hm
  rfl

end Catalog

/-! ## The most specific of inherited methods -/

namespace TypeHierarchy

variable {h : TypeHierarchy} {t : TypeName} {a b d top : Method} {l : List Method}

/-- In the order `isMoreSpecific` a method comes before one that a proper supertype declares. -/
theorem isMoreSpecific_of_isProperSubtype
    (hlt : h.isProperSubtype a.declaringType b.declaringType = true) :
    h.isMoreSpecific a b = true := by
  have hne : a.declaringType ≠ b.declaringType := (isProperSubtype_iff.1 hlt).1
  rw [isMoreSpecific, if_neg hne]
  exact hlt

variable (hanti : h.Antisymmetric) (htop : h.mostSpecific? l = some top)

include hanti htop

/-- **No method of a list is declared below the one that `mostSpecific?` chooses.** -/
theorem not_isProperSubtype_of_mostSpecific? (hd : d ∈ l) :
    ¬ h.isProperSubtype d.declaringType top.declaringType = true := by
  intro hlt
  have hmore : h.isMoreSpecific d top = true := isMoreSpecific_of_isProperSubtype hlt
  exact not_isMoreSpecific_of_mostSpecific? hanti htop hd hmore

/-- **Own methods win.** Among methods of a type `t` and of its supertypes the one that
`mostSpecific?` chooses is declared by `t` itself if any of them is. -/
theorem declaringType_of_mostSpecific? (habove : ∀ d ∈ l, h.isSubtype t d.declaringType = true)
    (hd : d ∈ l) (hown : d.declaringType = t) : top.declaringType = t := by
  by_cases hne : t = top.declaringType
  · exact hne.symm
  · -- Every other type that declares a method is a proper supertype.
    have hlt : h.isProperSubtype d.declaringType top.declaringType = true := by
      rw [hown]
      exact isProperSubtype_iff.2 ⟨hne, habove top (mem_of_mostSpecific? htop)⟩
    exact absurd hlt (not_isProperSubtype_of_mostSpecific? hanti htop hd)

end TypeHierarchy

/-! ## Properties that a type decides on -/

/-- **`DecidedBy p methods residue t`**: the type `t` declares the first getter of `p`, and it
declares a getter that returns the `valueType`. -/
structure BoundProperty.DecidedBy (p : BoundProperty) (methods : List Method) (residue : String)
    (t : TypeName) : Prop where
  primary : ∃ g, p.primaryGetter? = some g ∧ g.declaringType = t
  valued : ∃ d ∈ p.declarations methods residue, d.declaringType = t ∧ d.returnType = p.valueType

namespace BindsGetters

variable {h : TypeHierarchy} {types : TypeSettings} {methods getters : List Method}
  {residue : String} {a : Accessor} {t : TypeName}
  (hbinds : BindsGetters h types methods residue getters)
  (ha : Accessor.ofDeclarations? h getters = some a) (hanti : h.Antisymmetric)

include hbinds ha hanti

/-- **A type decides on the properties it declares a getter of**, in the sense of `DecidedBy`, where
all `methods` are declared by the type or by its supertypes. -/
theorem decidedBy_propertyOf (b : Binder)
    (habove : ∀ d ∈ methods, h.isSubtype t d.declaringType = true)
    (ht : t ∈ (b.propertyOf residue a).declaringTypes) :
    (b.propertyOf residue a).DecidedBy methods residue t := by
  have hdeclarations := hbinds.declarations_propertyOf ha b
  obtain ⟨d, hd, hown⟩ := ((hbinds.madeOf_propertyOf ha b).declared t).1 ht
  rw [hdeclarations] at hd
  have habove' : ∀ d ∈ getters, h.isSubtype t d.declaringType = true :=
    fun d hd => habove d (hbinds.named hd).1
  have htop := Accessor.mostSpecific?_eq ha
  have hmem : a.mostSpecific ∈ getters := TypeHierarchy.mem_of_mostSpecific? htop
  have hvalued : a.mostSpecific.declaringType = t :=
    TypeHierarchy.declaringType_of_mostSpecific? hanti htop habove' hd hown
  constructor
  · -- The choice is made again, among the getters with the name of the most specific one.
    have hnamed : a.mostSpecific ∈ getters.filter (·.name = a.mostSpecific.name) :=
      List.mem_filter.2 ⟨hmem, decide_eq_true rfl⟩
    obtain ⟨g, hg⟩ := h.exists_mostSpecific? (List.ne_nil_of_mem hnamed)
    refine ⟨g, (Accessor.head?_getters ha).trans hg, ?_⟩
    exact TypeHierarchy.declaringType_of_mostSpecific? hanti hg
      (fun d hd => habove' d (List.mem_filter.1 hd).1) hnamed hvalued
  · rw [hdeclarations]
    exact ⟨a.mostSpecific, hmem, hvalued, rfl⟩

end BindsGetters

/-! ## Extraction -/

/-- **Own declarations win.** Where the hierarchy is `Antisymmetric`, every property that a type
declares a getter of is `DecidedBy` it: in the extraction of the `methodSet?` of the type, the first
getter is its own and so is a getter that returns the value type. And in the extraction of any
methods, no getter of a property is declared on a proper subtype of the type that declares the one
the `valueType` was taken from. -/
theorem Configuration.own_declarations_win (c : Configuration) (catalog : Catalog)
    (hanti : catalog.hierarchy.Antisymmetric) :
    (∀ t m, catalog.methodSet? t = some m →
        ∀ p ∈ ((c.source catalog).extractor.extract m).properties, t ∈ p.declaringTypes →
          ∃ residue, p.HasResidue residue ∧ p.DecidedBy m.methods residue t) ∧
      ∀ m, ∀ p ∈ ((c.source catalog).extractor.extract m).properties,
        ∃ residue top, p.HasResidue residue ∧
          catalog.hierarchy.mostSpecific? (p.declarations m.methods residue) = some top ∧
          p.valueType = top.returnType ∧
          ∀ d ∈ p.declarations m.methods residue,
            ¬ catalog.hierarchy.isProperSubtype d.declaringType top.declaringType = true := by
  constructor
  · intro t m hm p hp ht
    obtain ⟨residue, getters, a, hbinds, ha, rfl⟩ :=
      ((c.source catalog).extractor.mem_extract_properties_iff m).1 hp
    -- What is visible on a type is declared by it or by a supertype.
    have habove : ∀ d ∈ m.methods, catalog.hierarchy.isSubtype t d.declaringType = true := by
      intro d hd
      rw [Catalog.methods_of_methodSet? hm] at hd
      exact (Catalog.mem_visibleMethods_iff.1 hd).1
    exact ⟨residue, hbinds.hasResidue ha _, hbinds.decidedBy_propertyOf ha hanti _ habove ht⟩
  · intro m p hp
    obtain ⟨residue, getters, a, hbinds, ha, rfl⟩ :=
      ((c.source catalog).extractor.mem_extract_properties_iff m).1 hp
    obtain ⟨top, htop, hvalue⟩ := (hbinds.madeOf_propertyOf ha
      ((c.source catalog).extractor.binder m)).typed
    refine ⟨residue, top, hbinds.hasResidue ha _, htop, hvalue, fun d hd => ?_⟩
    exact TypeHierarchy.not_isProperSubtype_of_mostSpecific? hanti htop hd

/-- A type `T` with two supertypes that have one in common, with a getter in each of them. -/
def diamond : Catalog where
  types :=
    ⟨[("A", { name := "A", supertypes := ["R"], methods := [{ name := "getX", returns := "Number" }] }),
      ("B", { name := "B", supertypes := ["R"], methods := [{ name := "getX", returns := "Object" }] }),
      ("R", { name := "R", methods := [{ name := "getX", returns := "Object" }] }),
      ("T", { name := "T", supertypes := ["A", "B"],
              methods := [{ name := "getX", returns := "int" }] })],
      by decide⟩
  name_eq := by
    intro name d h
    simp only [OrderedMap.get?, OrderedMap.lookup] at h
    grind

/-- **The property of `T` in `diamond` is its own**, although all four types declare its getter. -/
theorem diamond_decided :
    ∃ m, diamond.methodSet? "T" = some m ∧
      ∃ p ∈ ((({} : Configuration).source diamond).extractor.extract m).properties,
        p.declaringTypes.toList = ["A", "B", "R", "T"] ∧
          ∃ residue, p.HasResidue residue ∧ p.DecidedBy m.methods residue "T" := by
  have hdeclaring : (diamond.methodSet? "T").map (fun m =>
      ((({} : Configuration).source diamond).extractor.extract m).properties.map
        fun p => p.declaringTypes.toList) = some [["A", "B", "R", "T"]] := by cbv
  have hdeclarations : diamond.hierarchy.declarations =
      [("A", ["R"]), ("B", ["R"]), ("R", []), ("T", ["A", "B"])] := rfl
  -- Supertypes rank below their subtypes: `R`, then `A` and `B`, then `T`.
  have hanti : diamond.hierarchy.Antisymmetric := by
    refine TypeHierarchy.antisymmetric_of_rank
      (fun t => if t = "T" then 2 else if t = "R" then 0 else 1) ?_
    rw [hdeclarations]
    decide
  obtain ⟨m, hm, hproperties⟩ := Option.map_eq_some_iff.1 hdeclaring
  obtain ⟨p, hp, htypes⟩ := List.mem_map.1 (hproperties ▸ List.mem_singleton_self _)
  have ht : "T" ∈ p.declaringTypes := by
    show "T" ∈ p.declaringTypes.toList
    rw [htypes]
    decide
  exact ⟨m, hm, p, hp, htypes, (Configuration.own_declarations_win {} diamond hanti).1 "T" m hm p hp ht⟩

end AccessorSchema
