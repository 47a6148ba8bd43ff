import AccessorSchema.Proofs.LetterCase
import AccessorSchema.Proofs.PropertyOrder
import AccessorSchema.Text.SmallLetter

/-!
# The naming rule for getters

By the rule a residue starts with a capital, or with a small letter before a capital. Names are read more
widely than that: of a first character that is no capital it is not asked whether it is a small letter, so
that a digit, a sign, a titlecase letter or a letter without case will do before a capital.

* **`RuledAs`** — what the rule says of a name;
* **`isWellFormedResidue_iff`** — residues that are read as well formed start by the rule, or caseless;
* **`Binder.settle_of_malformed`** — in the group of a malformed name the most specific method is refused;
* **`Extractor.RefusesName`** — what becomes of a malformed name in an extraction;
* **`GetterName.classify_ruled_iff`** — exactly when a name is read by the rule.
-/

namespace AccessorSchema

open LetterCase

/-! ## The rule -/

/-- **`AdmittedResidue`: a residue that the rule admits.** It starts with a capital, or with a small
letter before a capital. -/
inductive AdmittedResidue : String → Prop
  | capital {c : Char} {t : List Char} (first : isUppercase c = true) :
      AdmittedResidue (String.ofList (c :: t))
  | small {c : Char} {t : List Char} (first : isLowercase c = true)
      (second : startsWithCapital t = true) : AdmittedResidue (String.ofList (c :: t))

/-- `CaselessResidue`: a residue that starts with neither capital nor small letter, and goes on with
a capital. -/
inductive CaselessResidue : String → Prop
  | intro {c : Char} {t : List Char} (notCapital : isUppercase c = false)
      (notSmall : isLowercase c = false) (second : startsWithCapital t = true) :
      CaselessResidue (String.ofList (c :: t))

/-- **`RuledAs name g`: what the rule says of a name.** A name with the start of a getter and more
after it is a getter of that residue if it is an `AdmittedResidue`, and `malformed` otherwise. -/
inductive RuledAs : String → GetterName → Prop
  | valid {kind : GetterKind} {residue : String} (admitted : AdmittedResidue residue) :
      RuledAs (getterName kind residue) (.valid kind residue)
  | malformed {kind : GetterKind} {residue : String} (goesOn : residue ≠ "")
      (refused : ¬ AdmittedResidue residue) : RuledAs (getterName kind residue) (.malformed kind)
  | other {name : String} (noGetter : ∀ kind residue, residue ≠ "" → name ≠ getterName kind residue) :
      RuledAs name .notGetter

/-- For a residue `c :: t`, `isWellFormedResidue` asks for a capital `c`, or for one after it. -/
theorem isWellFormedResidue_cons (c : Char) (t : List Char) :
    isWellFormedResidue (String.ofList (c :: t)) = (isUppercase c || startsWithCapital t) := by
  unfold isWellFormedResidue startsWithCapital
  rw [String.toList_ofList]
  cases t with
  | nil => simp
  | cons d t => rfl

/-- An `AdmittedResidue` starts with one of two sorts of characters. -/
theorem admittedResidue_cons_iff {c : Char} {t : List Char} :
    AdmittedResidue (String.ofList (c :: t)) ↔
      isUppercase c = true ∨ isLowercase c = true ∧ startsWithCapital t = true := by
  constructor
  · intro h
    generalize hr : String.ofList (c :: t) = r at h
    cases h with
    | capital first =>
      rw [String.ofList_inj, List.cons.injEq] at hr
      exact .inl (hr.1 ▸ first)
    | small first second =>
      rw [String.ofList_inj, List.cons.injEq] at hr
      exact .inr ⟨hr.1 ▸ first, hr.2 ▸ second⟩
  · rintro (first | ⟨first, second⟩)
    · exact .capital first
    · exact .small first second

/-- A `CaselessResidue` is not admitted. -/
theorem CaselessResidue.not_admitted {residue : String} (h : CaselessResidue residue) :
    ¬ AdmittedResidue residue := by
  cases h with
  | intro notCapital notSmall second =>
    rw [admittedResidue_cons_iff, notCapital, notSmall]
    simp

/-- **Residues for which `isWellFormedResidue` holds** are an `AdmittedResidue` or a
`CaselessResidue`. -/
theorem isWellFormedResidue_iff {residue : String} :
    isWellFormedResidue residue = true ↔ AdmittedResidue residue ∨ CaselessResidue residue := by
  constructor
  · intro h
    rcases eq_empty_or_exists_cons residue with rfl | ⟨c, t, rfl⟩
    · exact absurd rfl (ne_empty_of_isWellFormedResidue h)
    · rw [isWellFormedResidue_cons, Bool.or_eq_true] at h
      by_cases hc : isUppercase c = true
      · exact .inl (.capital hc)
      · have second : startsWithCapital t = true := h.resolve_left hc
        by_cases hsmall : isLowercase c = true
        · exact .inl (.small hsmall second)
        · exact .inr (.intro (by simpa using hc) (by simpa using hsmall) second)
  · rintro (hadmitted | hcaseless)
    · cases hadmitted with
      | capital first => rw [isWellFormedResidue_cons, first, Bool.true_or]
      | small _ second => rw [isWellFormedResidue_cons, second, Bool.or_true]
    · cases hcaseless with
      | intro _ _ second => rw [isWellFormedResidue_cons, second, Bool.or_true]

/-- An `AdmittedResidue` is not empty. -/
theorem AdmittedResidue.ne_empty {residue : String} (h : AdmittedResidue residue) : residue ≠ "" :=
  ne_empty_of_isWellFormedResidue (isWellFormedResidue_iff.2 (.inl h))

/-- **`RuledAs` says one thing of a name.** -/
theorem RuledAs.unique {name : String} {g g' : GetterName} (h : RuledAs name g)
    (h' : RuledAs name g') : g = g' := by
  -- A getter's name tells its kind and residue, so two constructors meet in one residue or clash.
  cases h with
  | valid admitted =>
    generalize hn : getterName _ _ = n at h'
    cases h' with
    | valid _ =>
      obtain ⟨rfl, rfl⟩ := getterName_inj.1 hn
      rfl
    | malformed _ refused =>
      obtain ⟨rfl, rfl⟩ := getterName_inj.1 hn
      exact absurd admitted refused
    | other noGetter => exact absurd hn.symm (noGetter _ _ admitted.ne_empty)
  | malformed goesOn refused =>
    generalize hn : getterName _ _ = n at h'
    cases h' with
    | valid admitted =>
      obtain ⟨rfl, rfl⟩ := getterName_inj.1 hn
      exact absurd admitted refused
    | malformed _ _ =>
      obtain ⟨rfl, rfl⟩ := getterName_inj.1 hn
      rfl
    | other noGetter => exact absurd hn.symm (noGetter _ _ goesOn)
  | other noGetter =>
    cases h' with
    | valid admitted => exact absurd rfl (noGetter _ _ admitted.ne_empty)
    | malformed goesOn _ => exact absurd rfl (noGetter _ _ goesOn)
    | other _ => rfl

/-- `StartsCaseless name`: the name is that of a getter with a `CaselessResidue`. -/
def StartsCaseless (name : String) : Prop :=
  ∃ kind residue, name = getterName kind residue ∧ CaselessResidue residue

/-- **A `CaselessResidue` is read as well formed**, although the rule calls its names
`malformed`. -/
theorem ruledAs_malformed_of_caseless {residue : String} (kind : GetterKind)
    (h : CaselessResidue residue) :
    RuledAs (getterName kind residue) (.malformed kind) ∧
      GetterName.classify (getterName kind residue) = .valid kind residue := by
  have hw : isWellFormedResidue residue = true := isWellFormedResidue_iff.2 (.inr h)
  exact ⟨.malformed (ne_empty_of_isWellFormedResidue hw) h.not_admitted,
    classify_eq_valid_iff.2 ⟨rfl, hw⟩⟩

/-- **A name that does not `StartsCaseless` is read by the rule**: `classify` gives what it is
`RuledAs`. -/
theorem ruledAs_classify {name : String} (h : ¬ StartsCaseless name) :
    RuledAs name (GetterName.classify name) := by
  cases hk : getterKind? name with
  | none =>
    have hnot : GetterName.classify name = .notGetter := by simp [GetterName.classify, hk]
    rw [hnot]
    refine .other fun kind residue hr hname => ?_
    rw [getterKind?_eq_some_iff.2 ⟨residue, hname, hr⟩] at hk
    exact absurd hk (by simp)
  | some kind =>
    obtain ⟨residue, rfl, hr⟩ := getterKind?_eq_some_iff.1 hk
    -- With caseless residues out of the way, well formed is admitted.
    have hadmitted : isWellFormedResidue residue = true ↔ AdmittedResidue residue := by
      rw [isWellFormedResidue_iff]
      exact or_iff_left fun hcaseless => h ⟨kind, residue, rfl, hcaseless⟩
    rw [classify_getterName kind hr]
    by_cases hw : isWellFormedResidue residue = true
    · rw [if_pos hw]
      exact .valid (hadmitted.1 hw)
    · rw [if_neg hw]
      exact .malformed hr fun hadm => hw (hadmitted.2 hadm)

/-- **Exactly the names for which `StartsCaseless` is false are read by the rule.** -/
theorem ruledAs_iff_classify_iff {name : String} :
    (∀ g, RuledAs name g ↔ GetterName.classify name = g) ↔ ¬ StartsCaseless name := by
  constructor
  · rintro h ⟨kind, residue, rfl, hcaseless⟩
    obtain ⟨hruled, hread⟩ := ruledAs_malformed_of_caseless kind hcaseless
    rw [(h _).1 hruled] at hread
    exact absurd hread (by simp)
  · intro h g
    constructor
    · exact (ruledAs_classify h).unique
    · rintro rfl
      exact ruledAs_classify h

/-! ## Malformed names -/

namespace Journal

/-- `Includes j k`: the journal `j` says in one piece what `k` says. -/
def Includes (j k : Journal) : Prop := ∃ before after, j = before ++ k ++ after

/-- A journal that `Includes` another includes its pieces. -/
theorem Includes.trans {j k l : Journal} (h : j.Includes k) (h' : k.Includes l) : j.Includes l := by
  obtain ⟨before, after, rfl⟩ := h
  obtain ⟨before', after', rfl⟩ := h'
  exact ⟨before ++ before', after' ++ after, by simp only [append_assoc]⟩

theorem includes_append_left (j k : Journal) : (j ++ k).Includes j := ⟨∅, k, rfl⟩

theorem includes_append_right (j k : Journal) : (j ++ k).Includes k :=
  ⟨j, ∅, (append_empty _).symm⟩

/-- A `concat` of journals `Includes` each of them. -/
theorem includes_concat {l : List Journal} {j : Journal} (hj : j ∈ l) : (concat l).Includes j := by
  induction l with
  | nil => exact absurd hj List.not_mem_nil
  | cons k l ih =>
    rw [concat_cons]
    rcases List.mem_cons.1 hj with rfl | hj
    · exact includes_append_left j _
    · exact (includes_append_right k _).trans (ih hj)

end Journal

namespace Binder

variable {b : Binder} {methods : List Method} {name : String} {kind : GetterKind}

/-- A name that is `malformed` is the name of an accessor. -/
theorem isAccessorName_of_malformed (hclass : GetterName.classify name = .malformed kind) :
    isAccessorName name = true := by
  obtain ⟨residue, rfl, hr, -⟩ := classify_eq_malformed_iff.1 hclass
  exact isAccessorName_getterName kind hr

/-- **In the group of a `malformed` name the `mostSpecific?` method is refused**, once overloads
have been reported. -/
theorem settle_of_malformed {g : Method} (hclass : GetterName.classify name = .malformed kind)
    (hg : b.hierarchy.mostSpecific? (unambiguous (methodsNamed name methods)) = some g) :
    b.settle (.ofMethods name methods) =
      (b.refuse g (malformedGetterMessage kind)).after (b.resolved methods name).handled
        (b.resolved methods name).journal := by
  rw [settle_ofMethods, if_pos (isAccessorName_of_malformed hclass), settleAccessor, resolved]
  simp only [withoutOverloads_kept, hg, hclass]

/-- What `settle` says of a group `Includes` the report on its overloads by `resolved`. -/
theorem includes_resolved (b : Binder) (methods : List Method) (hacc : isAccessorName name = true) :
    (b.settle (.ofMethods name methods)).journal.Includes (b.resolved methods name).journal := by
  rw [settle_ofMethods, if_pos hacc]
  exact Journal.includes_append_left _ _

variable (hb : b.groups = .ofMethods methods)

include hb

/-- A `malformed` name is not among `absorbedNames`. -/
theorem not_mem_absorbedNames_of_malformed (hclass : GetterName.classify name = .malformed kind) :
    name ∉ b.absorbedNames := by
  intro habs
  obtain ⟨residue, hw, -, -, rfl⟩ := (mem_absorbedNames_iff hb).1 habs
  rw [classify_eq_valid_iff.2 ⟨rfl, hw⟩] at hclass
  exact absurd hclass (by simp)

/-- What `settle` says of a group is said by `bind`. -/
theorem includes_bind_of_settle (hname : name ∈ methods.map Method.name)
    (habs : name ∉ b.absorbedNames) :
    b.bind.journal.Includes (b.settle (.ofMethods name methods)).journal := by
  have hmem : b.settle (.ofMethods name methods) ∈ b.outcomes :=
    (mem_outcomes_iff hb).2 ⟨name, hname, habs, rfl⟩
  exact Journal.includes_concat (List.mem_map_of_mem hmem)

end Binder

namespace Extractor

variable {x : Extractor} {m : MethodSet} {name : String} {kind : GetterKind}

/-- **`RefusesName x m kind name`: what becomes of a malformed name.** No property has an accessor
of the name, and the policy is told. It is told that a method of the name is malformed, or that the
name is overloaded, if that leaves no method without parameters. -/
structure RefusesName (x : Extractor) (m : MethodSet) (kind : GetterKind) (name : String) : Prop where
  unbound : ∀ p ∈ (x.extract m).properties, ∀ d, d ∈ p.getterBindings ∨ p.setterBinding = some d →
    d.name ≠ name
  told : (∃ g ∈ m.methods, g.name = name ∧ (x.extract m).journal.Includes
      (x.policy.invalidGetter m.target.name g (malformedGetterMessage kind))) ∨
    (∀ d ∈ m.methods, d.name = name → d.parameterTypes ≠ []) ∧
      overloads (methodsNamed name m.methods) ≠ [] ∧ (x.extract m).journal.Includes
        (x.policy.overloadedMethods m.target.name (overloads (methodsNamed name m.methods)))

/-- What `bind` says is said in the journal of `extract`. -/
theorem includes_bind (x : Extractor) (m : MethodSet) :
    (x.extract m).journal.Includes (x.binder m).bind.journal := by
  refine ⟨x.policy.validateHierarchy m.target,
    (checkCoverage x.policy m.target.name m.methods (x.binder m).bind.handled).2 ++
      (x.aspects m.target.name (x.binder m).bind.properties).2, ?_⟩
  rw [← Journal.append_assoc]
  rfl

/-- No property has an accessor of a `malformed` name. -/
theorem name_ne_of_malformed (hclass : GetterName.classify name = .malformed kind)
    {p : BoundProperty} (hp : p ∈ (x.extract m).properties) {d : Method}
    (hd : d ∈ p.getterBindings ∨ p.setterBinding = some d) : d.name ≠ name := by
  obtain ⟨residue, getters, a, hbinds, ha, rfl⟩ := (x.mem_extract_properties_iff m).1 hp
  rintro rfl
  rcases hd with hgetter | hsetter
  · -- Getters are named after the residue that is bound, and that is well formed.
    obtain ⟨kind', hname⟩ := (hbinds.hasResidue ha (x.binder m)).2 d hgetter
    rw [classify_eq_valid_iff.2 ⟨hname, hbinds.wellFormed⟩] at hclass
    exact absurd hclass (by simp)
  · have hname := Binder.setterNamed_propertyOf (x.binder_groups m) residue a d hsetter
    rw [hname, classify_setterName] at hclass
    exact absurd hclass (by simp)

/-- **A `malformed` getter name is refused** by every extraction that comes upon it, as
`RefusesName` has it. -/
theorem refusesName_of_malformed (x : Extractor) {m : MethodSet}
    (hclass : GetterName.classify name = .malformed kind)
    (hname : name ∈ m.methods.map Method.name) : x.RefusesName m kind name := by
  have habs := Binder.not_mem_absorbedNames_of_malformed (x.binder_groups m) hclass
  have hgroup : (x.extract m).journal.Includes
      ((x.binder m).settle (.ofMethods name m.methods)).journal :=
    (x.includes_bind m).trans (Binder.includes_bind_of_settle (x.binder_groups m) hname habs)
  refine ⟨fun p hp d hd => name_ne_of_malformed hclass hp hd, ?_⟩
  cases hg : x.hierarchy.mostSpecific? (unambiguous (methodsNamed name m.methods)) with
  | some g =>
    have hsettle := Binder.settle_of_malformed (b := x.binder m) hclass hg
    have hmem := unambiguous_subset _ (TypeHierarchy.mem_of_mostSpecific? hg)
    obtain ⟨hin, hnamed⟩ := mem_methodsNamed.1 hmem
    refine .inl ⟨g, hin, hnamed, hgroup.trans ?_⟩
    rw [hsettle]
    exact Journal.includes_append_right _ _
  | none =>
    -- Nothing remains of the name, so that it is overloaded.
    have hnil := TypeHierarchy.mostSpecific?_eq_none.1 hg
    have hover : overloads (methodsNamed name m.methods) ≠ [] := by
      intro heq
      rw [unambiguous_of_overloads_eq_nil heq] at hnil
      exact methodsNamed_eq_nil_iff.1 hnil hname
    refine .inr ⟨fun d hd hdname h0 => ?_, hover, hgroup.trans ?_⟩
    · rw [unambiguous_of_overloads_ne_nil hover, List.filter_eq_nil_iff] at hnil
      exact hnil d (mem_methodsNamed.2 ⟨hd, hdname⟩) (decide_eq_true (Method.arity_eq_zero_iff.2 h0))
    · have htold := (x.binder m).includes_resolved m.methods
        (Binder.isAccessorName_of_malformed hclass)
      rwa [Binder.resolved, Binder.journal_withoutOverloads_of_ne_nil _ hover] at htold

end Extractor

/-- **When names are read by the rule.** What `classify` gives for a name is what it is `RuledAs`,
exactly if not `StartsCaseless`; a name with a `CaselessResidue` is `malformed` by the rule, and is
read as valid. A name that is read as malformed is bound in no extraction, and the policy is told:
every extractor `RefusesName`. -/
theorem GetterName.classify_ruled_iff (name : String) :
    ((∀ g, RuledAs name g ↔ GetterName.classify name = g) ↔ ¬ StartsCaseless name) ∧
      (∀ kind residue, CaselessResidue residue →
        RuledAs (getterName kind residue) (.malformed kind) ∧
          GetterName.classify (getterName kind residue) = .valid kind residue) ∧
      ∀ kind, GetterName.classify name = .malformed kind → ∀ (x : Extractor) (m : MethodSet),
        name ∈ m.methods.map Method.name → x.RefusesName m kind name := by
  refine ⟨ruledAs_iff_classify_iff, fun kind residue hcaseless => ?_, fun kind hclass x m hname => ?_⟩
  · exact ruledAs_malformed_of_caseless kind hcaseless
  · exact x.refusesName_of_malformed hclass hname

/-- A getter named with one letter after `get`, which is small. -/
def smallLetter : MethodSet where
  target := { name := "T" }
  methods := [{ name := "getx", declaringType := "T", returnType := "int" }]

/-- **The name `getx` is refused**, by the rule and in the extraction. -/
theorem smallLetter_refused :
    RuledAs "getx" (.malformed .get) ∧
      (Extractor.managed {} {} {}).RefusesName smallLetter .get "getx" := by
  obtain ⟨hruled, -, hrefused⟩ := GetterName.classify_ruled_iff "getx"
  have hclass : GetterName.classify "getx" = .malformed .get := by decide +kernel
  have hstart : ¬ StartsCaseless "getx" := by
    rintro ⟨kind, residue, hname, hcaseless⟩
    rw [hname, (ruledAs_malformed_of_caseless kind hcaseless).2] at hclass
    exact absurd hclass (by simp)
  exact ⟨(hruled.2 hstart _).2 hclass, hrefused .get hclass _ _ (by decide)⟩

/-- A getter with an underscore before a capital, `get_X`. -/
def underscore : MethodSet where
  target := { name := "T" }
  methods := [{ name := "get_X", declaringType := "T", returnType := "int" }]

/-- **The name `get_X` is bound**, although it is `RuledAs` malformed. -/
theorem underscore_bound :
    (RuledAs "get_X" (.malformed .get) ∧ ¬ RuledAs "get_X" (GetterName.classify "get_X")) ∧
      ((Extractor.managed {} {} {}).extract underscore).properties.map BoundProperty.name = ["_X"] := by
  have hcaseless : CaselessResidue "_X" :=
    .intro (c := '_') (t := ['X']) (by decide) (by decide) (by decide)
  obtain ⟨hruled, hread⟩ := ruledAs_malformed_of_caseless .get hcaseless
  have hread : GetterName.classify "get_X" = .valid .get "_X" := hread
  refine ⟨⟨hruled, fun h => ?_⟩, by cbv⟩
  rw [hread] at h
  exact absurd (hruled.unique h) (by simp)

end AccessorSchema
