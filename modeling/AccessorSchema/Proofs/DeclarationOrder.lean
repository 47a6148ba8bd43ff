import AccessorSchema.Proofs.HandledMethods
import AccessorSchema.Proofs.Impartial
import AccessorSchema.Proofs.Locality
import AccessorSchema.Proofs.Specificity

/-!
# Declarations in any order

The order of declarations decides between methods of which neither is more specific. Where any two
methods of one name can be compared nothing is left for it to decide, not even for the getters of a
property with two names, which are only run through one name after the other:

* **`TypeHierarchy.NamesakesComparable`** — any two methods of one name can be compared;
* `plainGetters_perm`, `twinGetters_perm` — the getters of a residue are the same in another order;
* **`Accessor.reordered_of_perm`** — an accessor made of reordered declarations differs in nothing else;
* `Extractor.mostSpecific?_getters_eq`, `Extractor.reordered_getters` — the same getter is chosen for a
  residue, although getters of the two names need not be comparable;
* **`Extractor.mem_properties_of_same_methods`** — the same methods make the same properties;
* **`Extractor.extract_of_perm`** — permuted methods have the same properties, schema and handled
  methods, and leave the same methods unhandled.
-/

namespace AccessorSchema

/-! ## The same methods in another order -/

section

variable {methods methods' : List Method} (hall : ∀ d, d ∈ methods ↔ d ∈ methods')

include hall

/-- `methodsNamed name` of permuted methods. -/
theorem methodsNamed_perm (name : String) :
    (methodsNamed name methods).Perm (methodsNamed name methods') := by
  refine (List.perm_ext_iff_of_nodup (nodup_distinct _) (nodup_distinct _)).2 fun d => ?_
  exact mem_methodsNamed.trans ((and_congr_left fun _ => hall d).trans mem_methodsNamed.symm)

/-- `plainGetters` of permuted methods: the `get` getters of `residue` are the same. -/
theorem plainGetters_perm (residue : String) :
    (plainGetters methods residue).Perm (plainGetters methods' residue) :=
  (methodsNamed_perm hall _).filter _

omit hall in
/-- `unambiguous` of permuted methods: whether they are overloaded does not depend on their
order. -/
theorem unambiguous_perm {l l' : List Method} (hperm : l.Perm l') :
    (unambiguous l).Perm (unambiguous l') := by
  have hover : overloads l = [] ↔ overloads l' = [] := by
    simp only [overloads_eq_nil_iff, hperm.mem_iff]
  by_cases ho : overloads l = []
  · rw [unambiguous_of_overloads_eq_nil ho, unambiguous_of_overloads_eq_nil (hover.1 ho)]
    exact hperm
  · rw [unambiguous_of_overloads_ne_nil ho, unambiguous_of_overloads_ne_nil (mt hover.2 ho)]
    exact hperm.filter _

/-- `twinGetters` of permuted methods: the `is` getters of `residue` that remain are the same. -/
theorem twinGetters_perm (residue : String) :
    (twinGetters methods residue).Perm (twinGetters methods' residue) :=
  unambiguous_perm (methodsNamed_perm hall _)

/-- `HandledFor properties methods m` depends on which methods there are, and not on their order. -/
theorem HandledFor.of_same_methods {properties : List BoundProperty} {m : Method}
    (h : HandledFor properties methods m) : HandledFor properties methods' m := by
  have hown : ∀ {d : Method}, d.HasOwnSignature methods → d.HasOwnSignature methods' :=
    fun hd n hn => hd n ((hall n).2 hn)
  cases h with
  | overridden ordinary mem ne same => exact .overridden ordinary ((hall _).1 mem) ne same
  | overloadedAccessor accessor mem mem' name name' differ =>
    exact .overloadedAccessor accessor ((hall _).1 mem) ((hall _).1 mem') name name' differ
  | overloaded ordinary own mem name ne own' =>
    exact .overloaded ordinary (hown own) ((hall _).1 mem) name ne (hown own')
  | getter bound mem name => exact .getter bound mem name
  | setter bound hasResidue name => exact .setter bound hasResidue name

end

/-! ## Methods of one name -/

namespace TypeHierarchy

/-- **Any two different `methods` of one name can be compared** in `h`. -/
def NamesakesComparable (h : TypeHierarchy) (methods : List Method) : Prop :=
  ∀ a ∈ methods, ∀ b ∈ methods, a.name = b.name → a ≠ b → h.Comparable a b

variable {h : TypeHierarchy} {methods methods' l : List Method} {name : String}

section

variable (hcomp : h.NamesakesComparable methods)

include hcomp

/-- Methods `l` that are all of one name can be compared. -/
theorem NamesakesComparable.allComparable (hl : ∀ d ∈ l, d ∈ methods ∧ d.name = name) :
    h.AllComparable l := fun a ha b hb hne =>
  hcomp a (hl a ha).1 b (hl b hb).1 ((hl a ha).2.trans (hl b hb).2.symm) hne

/-- The methods of `name` can be compared, any two of them. -/
theorem NamesakesComparable.methodsNamed (name : String) :
    h.AllComparable (methodsNamed name methods) :=
  hcomp.allComparable fun _ hd => mem_methodsNamed.1 hd

theorem NamesakesComparable.plainGetters (residue : String) :
    h.AllComparable (plainGetters methods residue) :=
  (hcomp.methodsNamed _).mono List.filter_sublist.subset

theorem NamesakesComparable.twinGetters (residue : String) :
    h.AllComparable (twinGetters methods residue) :=
  (hcomp.methodsNamed _).mono (unambiguous_subset _)

end

/-- `NamesakesComparable` depends on which methods there are, and not on their order. -/
theorem NamesakesComparable.of_same_methods (hcomp : h.NamesakesComparable methods)
    (hall : ∀ d, d ∈ methods ↔ d ∈ methods') : h.NamesakesComparable methods' :=
  fun a ha b hb => hcomp a ((hall a).2 ha) b ((hall b).2 hb)

end TypeHierarchy

/-! ## Accessors -/

namespace Accessor

variable {h : TypeHierarchy} {l l' : List Method} {a a' : Accessor}

/-- **An accessor made of permuted declarations is `Reordered`**, if the choices by
`h.mostSpecific?` among all of them and among those of each name are the same. -/
theorem reordered_of_perm (ha : Accessor.ofDeclarations? h l = some a)
    (ha' : Accessor.ofDeclarations? h l' = some a') (hperm : l.Perm l')
    (hnames : l.map Method.name = l'.map Method.name)
    (htop : h.mostSpecific? l = h.mostSpecific? l')
    (hnamed : ∀ name, h.mostSpecific? (l.filter (·.name = name)) =
      h.mostSpecific? (l'.filter (·.name = name))) : a.Reordered a' := by
  obtain ⟨hdecl, hspec, hgetters⟩ := ofDeclarations?_eq_some_iff.1 ha
  obtain ⟨hdecl', hspec', hgetters'⟩ := ofDeclarations?_eq_some_iff.1 ha'
  have hmost : a.mostSpecific = a'.mostSpecific :=
    Option.some.inj (hspec.symm.trans (htop.trans hspec'))
  refine ⟨?_, hmost, ?_⟩
  · rw [hdecl, hdecl']
    exact hperm
  · -- The names come in one order, and for each of them the choice is the same.
    rw [hgetters, hgetters', hmost, hnames]
    exact congrArg (List.filterMap · _) (funext hnamed)

/-- Permuted declarations make accessors that are `Reordered`, if they make any. -/
theorem ofDeclarations?_rel_of_perm (hperm : l.Perm l')
    (hnames : l.map Method.name = l'.map Method.name)
    (htop : h.mostSpecific? l = h.mostSpecific? l')
    (hnamed : ∀ name, h.mostSpecific? (l.filter (·.name = name)) =
      h.mostSpecific? (l'.filter (·.name = name))) :
    (Accessor.ofDeclarations? h l).Rel Accessor.Reordered (Accessor.ofDeclarations? h l') := by
  by_cases hnil : l = []
  · subst hnil
    rw [hperm.nil_eq.symm]
    exact .none
  · have hnil' : l' ≠ [] := fun h => hnil (List.perm_nil.1 (h ▸ hperm))
    obtain ⟨a, ha⟩ := Accessor.exists_ofDeclarations? h hnil
    obtain ⟨a', ha'⟩ := Accessor.exists_ofDeclarations? h hnil'
    rw [ha, ha']
    exact .some (reordered_of_perm ha ha' hperm hnames htop hnamed)

/-- `a.Reordered a'`: the declarations are of the same types. -/
theorem Reordered.declaringTypes_eq (h : a.Reordered a') :
    a.declaringTypes = a'.declaringTypes := by
  refine OrderedSet.ext_mem fun t => ?_
  rw [declaringTypes, declaringTypes, OrderedSet.mem_ofList, OrderedSet.mem_ofList,
    (h.declarations.map Method.declaringType).mem_iff]

/-- `a.Reordered a'`: the declarations have the same markers. -/
theorem Reordered.hasMarker_eq (h : a.Reordered a') (k : Marker) :
    a.hasMarker k = a'.hasMarker k := h.declarations.any_eq

end Accessor

/-- Methods of one `name` have the same names in any order. -/
theorem map_name_eq_of_perm {l l' : List Method} {name : String} (hperm : l.Perm l')
    (hname : ∀ d ∈ l, d.name = name) : l.map Method.name = l'.map Method.name := by
  have hname' : ∀ d ∈ l', d.name = name := fun d hd => hname d (hperm.mem_iff.2 hd)
  rw [List.map_eq_replicate_iff.2 hname, List.map_eq_replicate_iff.2 hname', hperm.length_eq]

/-! ## Bound properties -/

/-- **`b.bindSetter` keeps the same one of reordered setters**, if the policy is `Impartial`. -/
theorem Binder.bindSetter_congr {b : Binder} (hpolicy : b.policy.Impartial) (valueType : TypeName)
    {a a' : Accessor} (hgetter : a.Reordered a') {s s' : Option Accessor}
    (hsetter : s.Rel Accessor.Reordered s') :
    (b.bindSetter valueType a s).1 = (b.bindSetter valueType a' s').1 := by
  cases hsetter with
  | none => rfl
  | @some s s' hreordered =>
    have hverdict : (b.policy.validateSetter b.subject valueType a s).1 =
        (b.policy.validateSetter b.subject valueType a' s').1 := hpolicy.verdict hgetter hreordered
    -- What the policy says besides its verdict can differ.
    rcases hasked : b.policy.validateSetter b.subject valueType a s with ⟨verdict, j⟩
    rcases hasked' : b.policy.validateSetter b.subject valueType a' s' with ⟨verdict', j'⟩
    rw [hasked, hasked'] at hverdict
    obtain rfl : verdict = verdict' := hverdict
    simp only [bindSetter, hasked, hasked']
    cases verdict with
    | accept => exact congrArg some hreordered.mostSpecific
    | reject => rfl

namespace Extractor

section

variable {x : Extractor} {target : TypeDescriptor} {methods methods' : List Method}
  (hpolicy : x.policy.Impartial)

include hpolicy

/-- **`propertyOf` makes the same property of reordered getters and setters.** -/
theorem propertyOf_congr {residue : String} {a a' : Accessor} (hgetter : a.Reordered a')
    (hsetter : ((x.binder ⟨target, methods⟩).setterOf residue).Rel Accessor.Reordered
      ((x.binder ⟨target, methods'⟩).setterOf residue)) :
    (x.binder ⟨target, methods⟩).propertyOf residue a =
      (x.binder ⟨target, methods'⟩).propertyOf residue a' := by
  have hbound := Binder.bindSetter_congr (b := x.binder ⟨target, methods⟩) hpolicy
    a.mostSpecific.returnType hgetter hsetter
  unfold Binder.propertyOf
  rw [BoundProperty.mk.injEq]
  refine ⟨rfl, congrArg _ hgetter.mostSpecific, hpolicy.state hgetter, hgetter.declaringTypes_eq,
    hgetter.getters, ?_, hgetter.hasMarker_eq .unmanaged⟩
  rw [← hgetter.mostSpecific]
  exact hbound

variable (hanti : x.hierarchy.Antisymmetric) (hcomp : x.hierarchy.NamesakesComparable methods)
  (hall : ∀ d, d ∈ methods ↔ d ∈ methods')

include hanti hcomp hall

omit hpolicy in
/-- The setters of `residue` differ in the order of their declarations only. -/
theorem setterOf_rel (residue : String) :
    ((x.binder ⟨target, methods⟩).setterOf residue).Rel Accessor.Reordered
      ((x.binder ⟨target, methods'⟩).setterOf residue) := by
  rw [Binder.setterOf_eq (x.binder_groups _), Binder.setterOf_eq (x.binder_groups _)]
  have hperm := methodsNamed_perm hall (setterName residue)
  have hcomparable := hcomp.methodsNamed (setterName residue)
  have hnames := map_name_eq_of_perm hperm fun d hd => (mem_methodsNamed.1 hd).2
  exact Accessor.ofDeclarations?_rel_of_perm hperm hnames
    (TypeHierarchy.mostSpecific?_eq_of_perm hanti hcomparable hperm)
    fun name => TypeHierarchy.mostSpecific?_eq_of_perm hanti
      (hcomparable.mono List.filter_sublist.subset) (hperm.filter _)

omit hpolicy in
/-- **The choice among the getters of `residue` is the same**, although a `get` getter need not be
comparable with an `is` getter: either kind keeps its place. -/
theorem mostSpecific?_getters_eq (residue : String) :
    x.hierarchy.mostSpecific? (plainGetters methods residue ++ twinGetters methods residue) =
      x.hierarchy.mostSpecific? (plainGetters methods' residue ++ twinGetters methods' residue) :=
  TypeHierarchy.mostSpecific?_append_eq_of_perm hanti (hcomp.plainGetters residue)
    (hcomp.twinGetters residue) (plainGetters_perm hall residue) (twinGetters_perm hall residue)

omit hpolicy in
/-- The getters of `residue` make accessors that are `Reordered`. -/
theorem reordered_getters {residue : String} {a a' : Accessor}
    (ha : Accessor.ofDeclarations? x.hierarchy
      (plainGetters methods residue ++ twinGetters methods residue) = some a)
    (ha' : Accessor.ofDeclarations? x.hierarchy
      (plainGetters methods' residue ++ twinGetters methods' residue) = some a') :
    a.Reordered a' := by
  have hplain := plainGetters_perm hall residue
  have htwin := twinGetters_perm hall residue
  have hnames := map_name_eq_of_perm hplain fun d hd => (mem_plainGetters.1 hd).2.1
  have hnames' := map_name_eq_of_perm htwin fun d hd => (mem_of_mem_twinGetters hd).2
  refine Accessor.reordered_of_perm ha ha' (hplain.append htwin) ?_
    (mostSpecific?_getters_eq hanti hcomp hall residue) fun name => ?_
  · rw [List.map_append, List.map_append, hnames, hnames']
  · -- Of the getters of both kinds those of one name can be compared.
    have hnamed : ∀ d ∈ (plainGetters methods residue ++ twinGetters methods residue).filter
        (·.name = name), d ∈ methods ∧ d.name = name := by
      intro d hd
      obtain ⟨hmem, hname⟩ := List.mem_filter.1 hd
      exact ⟨(named_of_mem_getters hmem).1, of_decide_eq_true hname⟩
    exact TypeHierarchy.mostSpecific?_eq_of_perm hanti (hcomp.allComparable hnamed)
      ((hplain.append htwin).filter _)

/-- **The same methods make the same properties**, whatever their order: each `p` of one extraction
is one of the other. -/
theorem mem_properties_of_same_methods {p : BoundProperty}
    (hp : p ∈ (x.extract ⟨target, methods⟩).properties) :
    p ∈ (x.extract ⟨target, methods'⟩).properties := by
  obtain ⟨residue, getters, a, hbinds, ha, rfl⟩ := (x.mem_extract_properties_iff _).1 hp
  have hplain := TypeHierarchy.mostSpecific?_eq_of_perm hanti (hcomp.plainGetters residue)
    (plainGetters_perm hall residue)
  have htwin := TypeHierarchy.mostSpecific?_eq_of_perm hanti (hcomp.twinGetters residue)
    (twinGetters_perm hall residue)
  have hbinds' := hbinds.transfer methods' hplain.symm htwin.symm
    (mostSpecific?_getters_eq hanti hcomp hall residue).symm
  obtain ⟨a', ha'⟩ := Accessor.exists_ofDeclarations? x.hierarchy hbinds'.ne_nil
  obtain rfl := hbinds.eq_append
  refine (x.mem_extract_properties_iff _).2 ⟨residue, _, a', hbinds', ha', ?_⟩
  exact propertyOf_congr hpolicy (reordered_getters hanti hcomp hall ha ha')
    (setterOf_rel hanti hcomp hall residue)

/-- **Comparable methods have the same `properties` in any order.** -/
theorem properties_of_same_methods :
    (x.extract ⟨target, methods⟩).properties = (x.extract ⟨target, methods'⟩).properties := by
  refine BoundProperty.eq_of_mem_iff (x.pairwise_smallestGetterName? _)
    (x.pairwise_smallestGetterName? _) fun p => ?_
  constructor
  · exact mem_properties_of_same_methods hpolicy hanti hcomp hall
  · exact mem_properties_of_same_methods hpolicy hanti (hcomp.of_same_methods hall)
      fun d => (hall d).symm

/-- Comparable methods are accounted for alike in any order, by `Binder.bind`. -/
theorem bind_handled_of_same_methods :
    (x.binder ⟨target, methods⟩).bind.handled = (x.binder ⟨target, methods'⟩).bind.handled := by
  have hproperties : (x.binder ⟨target, methods⟩).bind.properties =
      (x.binder ⟨target, methods'⟩).bind.properties :=
    properties_of_same_methods hpolicy hanti hcomp hall
  -- The reasons for which a method is handled speak of properties and of the set of methods.
  refine OrderedSet.ext_mem fun d => ?_
  rw [Binder.mem_bind_handled_iff (x.binder_groups _), Binder.mem_bind_handled_iff (x.binder_groups _),
    hproperties]
  refine and_congr (hall d) ⟨?_, ?_⟩
  · exact fun h => h.of_same_methods hall
  · exact fun h => h.of_same_methods fun d => (hall d).symm

end

/-- **The order of declarations does not matter where they can be compared.** If no two types are
subtypes of each other and any two methods of one name can be compared, then under `Policy.managed`
and `Policy.recording` permuted methods have the same properties, the same schema and the same
handled methods, and leave the same methods unhandled. -/
theorem extract_of_perm (x : Extractor) (target : TypeDescriptor) {methods methods' : List Method}
    (hpolicy : (∃ types, x.policy = .managed types) ∨ ∃ verdict, x.policy = .recording verdict)
    (hanti : x.hierarchy.Antisymmetric) (hcomp : x.hierarchy.NamesakesComparable methods)
    (hperm : methods.Perm methods') :
    (x.extract ⟨target, methods⟩).properties = (x.extract ⟨target, methods'⟩).properties ∧
      (x.extract ⟨target, methods⟩).schema = (x.extract ⟨target, methods'⟩).schema ∧
      (x.extract ⟨target, methods⟩).handled = (x.extract ⟨target, methods'⟩).handled ∧
      (x.extract ⟨target, methods⟩).unhandled.Perm (x.extract ⟨target, methods'⟩).unhandled := by
  have himpartial : x.policy.Impartial := by
    rcases hpolicy with ⟨types, heq⟩ | ⟨verdict, heq⟩
    · exact heq ▸ Policy.impartial_managed types
    · exact heq ▸ Policy.impartial_recording verdict
  have hall : ∀ d, d ∈ methods ↔ d ∈ methods' := fun d => hperm.mem_iff
  -- Namesakes can be compared, so that each choice among them is the same in any order.
  have hproperties : (x.extract ⟨target, methods⟩).properties =
      (x.extract ⟨target, methods'⟩).properties :=
    properties_of_same_methods himpartial hanti hcomp hall
  have hhandled : (x.binder ⟨target, methods⟩).bind.handled =
      (x.binder ⟨target, methods'⟩).bind.handled :=
    bind_handled_of_same_methods himpartial hanti hcomp hall
  exact ⟨hproperties, x.extract_of_same_binding target himpartial hall hproperties hhandled⟩

/-- Extraction of managed structs where `T` is declared with the supertype `P`. -/
def belowP : Extractor := managed {} {} (.ofDeclarations [("T", ["P"])])

/-- Twins of which the `get` getter is declared on a type and its supertype, beside a setter that is
as well and an ordinary method. The `is` getter cannot be compared with the `get` getters. -/
def twinsOfThreeTypes : List Method :=
  [{ name := "isX", declaringType := "Q", returnType := "boolean" },
    { name := "getX", declaringType := "P", returnType := "boolean" },
    { name := "setX", declaringType := "P", returnType := "void", parameterTypes := ["boolean"] },
    { name := "run", declaringType := "T", returnType := "void" },
    { name := "getX", declaringType := "T", returnType := "boolean" },
    { name := "setX", declaringType := "T", returnType := "void", parameterTypes := ["boolean"] }]

/-- `belowP.hierarchy` is antisymmetric: the only declared supertype ranks below its subtype. -/
theorem antisymmetric_belowP : belowP.hierarchy.Antisymmetric :=
  TypeHierarchy.antisymmetric_of_rank (fun t => if t = "T" then 1 else 0) (by decide)

/-- The methods of one name in `twinsOfThreeTypes` are declared on a type and its supertype. -/
theorem namesakesComparable_twinsOfThreeTypes :
    belowP.hierarchy.NamesakesComparable twinsOfThreeTypes := by
  have hsub : belowP.hierarchy.isProperSubtype "T" "P" = true := by cbv
  simp [TypeHierarchy.NamesakesComparable, TypeHierarchy.Comparable, twinsOfThreeTypes, hsub]

/-- Read backwards `twinsOfThreeTypes` comes to the same, and to more than nothing. -/
theorem twinsOfThreeTypes_reversed :
    ((belowP.extract ⟨{ name := "T" }, twinsOfThreeTypes⟩).properties =
        (belowP.extract ⟨{ name := "T" }, twinsOfThreeTypes.reverse⟩).properties ∧
      (belowP.extract ⟨{ name := "T" }, twinsOfThreeTypes⟩).schema =
        (belowP.extract ⟨{ name := "T" }, twinsOfThreeTypes.reverse⟩).schema ∧
      (belowP.extract ⟨{ name := "T" }, twinsOfThreeTypes⟩).handled =
        (belowP.extract ⟨{ name := "T" }, twinsOfThreeTypes.reverse⟩).handled ∧
      (belowP.extract ⟨{ name := "T" }, twinsOfThreeTypes⟩).unhandled.Perm
        (belowP.extract ⟨{ name := "T" }, twinsOfThreeTypes.reverse⟩).unhandled) ∧
      ((belowP.extract ⟨{ name := "T" }, twinsOfThreeTypes⟩).properties.map
          fun p => p.getterBindings.map Method.qualifiedSignature) = [["T.getX()", "Q.isX()"]] :=
  ⟨extract_of_perm belowP { name := "T" } (.inl ⟨{}, rfl⟩) antisymmetric_belowP
      namesakesComparable_twinsOfThreeTypes (List.reverse_perm _).symm,
    by cbv⟩

end Extractor

end AccessorSchema
