import AccessorSchema.Proofs.Impartial
import AccessorSchema.Proofs.Reachability
import AccessorSchema.Proofs.Reporting

/-!
# Methods of different names in any order

Methods are grouped by name before anything else is done with them, and a repeated method joins its
group once. All that is left of the order of a list are the first occurrences within each name:

* **`AccessorGroups.ofMethods_congr`** — lists with the same methods of every name have the same groups;
* **`Policy.CoverageRule`** — of which methods left over the two policies speak, and in which words;
* **`Extraction.SameButForOrder`** — two extractions that differ in the order of methods left over only;
* **`Extractor.extract_of_same_occurrences`** — lists with the same methods of every name have such
  extractions, and lists with the same first occurrences have the same extraction.
-/

namespace AccessorSchema

/-! ## Groups -/

section

variable {methods methods' : List Method}

/-- A method is among `methodsNamed` for its own name. -/
theorem mem_iff_mem_methodsNamed {d : Method} : d ∈ methods ↔ d ∈ methodsNamed d.name methods := by
  rw [mem_methodsNamed, and_iff_left rfl]

variable (hnamed : ∀ name, methodsNamed name methods = methodsNamed name methods')

include hnamed

/-- If `methodsNamed` agrees for every name, then the methods are the same. -/
theorem mem_iff_of_methodsNamed (d : Method) : d ∈ methods ↔ d ∈ methods' := by
  rw [mem_iff_mem_methodsNamed, hnamed, ← mem_iff_mem_methodsNamed]

/-- **If `methodsNamed` agrees for every name, then `ofMethods` gives the same groups.** -/
theorem AccessorGroups.ofMethods_congr :
    AccessorGroups.ofMethods methods = AccessorGroups.ofMethods methods' := by
  have hnames : OrderedSet.ofList (methods.map Method.name) =
      OrderedSet.ofList (methods'.map Method.name) := by
    refine OrderedSet.ext_mem fun name => ?_
    rw [OrderedSet.mem_ofList, OrderedSet.mem_ofList, ← not_iff_not, ← methodsNamed_eq_nil_iff,
      ← methodsNamed_eq_nil_iff, hnamed]
  -- The same names occur, and they have the same methods.
  unfold AccessorGroups.ofMethods
  rw [hnames]
  refine List.map_congr_left fun name _ => ?_
  exact congrArg (AccessorGroup.mk name) (hnamed name)

end

/-- If `distinct` agrees, then `methodsNamed` does for every name. -/
theorem methodsNamed_of_distinct_eq {methods methods' : List Method}
    (h : distinct methods = distinct methods') (name : String) :
    methodsNamed name methods = methodsNamed name methods' := by
  rw [methodsNamed, methodsNamed, distinct_filter, distinct_filter, h]

/-- If `distinct` agrees, then `leftovers` does, in the same order. -/
theorem leftovers_of_distinct_eq {all all' : List Method} (h : distinct all = distinct all')
    (handled : OrderedSet Method) : leftovers all handled = leftovers all' handled := by
  rw [leftovers, leftovers, distinct_filter, distinct_filter, h]

/-! ## Reports of methods left over -/

/-- **`CoverageRule policy spoken wording`**: how the two policies report methods left over, with
those of which they speak and the words in which they do. -/
inductive Policy.CoverageRule : Policy → (Method → Bool) → (List Method → String) → Prop
  /-- Under `managed` the methods without implementation are named by `qualifiedSignature`. -/
  | managed (types : TypeSettings) :
      CoverageRule (.managed types) (!·.isConcrete) fun left =>
        "only paired getter/setter methods are supported (invalid methods: " ++
          ", ".intercalate (left.map Method.qualifiedSignature) ++ ")"
  /-- Under `recording` all methods are reported, in fixed words. -/
  | recording (verdict : SetterVerdict) :
      CoverageRule (.recording verdict) (fun _ => true) fun _ => "unhandled methods"

/-- `coverageReport`: the report of methods left over, one error unless there are none. -/
def coverageReport (subject : TypeName) (wording : List Method → String) :
    List Method → List Diagnostic
  | [] => []
  | left =>
    [{ severity := .error
       kind := .incompleteCoverage
       subject
       methods := left
       message := wording left }]

namespace Policy.CoverageRule

variable {policy : Policy} {spoken : Method → Bool} {wording : List Method → String}
  (hrule : policy.CoverageRule spoken wording)

include hrule

/-- A policy with a `CoverageRule` is `Impartial`. -/
theorem impartial : policy.Impartial := by
  cases hrule with
  | managed types => exact Policy.impartial_managed types
  | recording verdict => exact Policy.impartial_recording verdict

/-- In `incompleteCoverage`, methods that are not left over are of no interest. -/
theorem incompleteCoverage_congr (subject : TypeName) (all all' left : List Method) :
    policy.incompleteCoverage subject all left = policy.incompleteCoverage subject all' left := by
  cases hrule with
  | managed _ => rfl
  | recording _ => rfl

/-- The diagnostics of `incompleteCoverage` are the `coverageReport` on the methods of which it
speaks. -/
theorem diagnostics_incompleteCoverage (subject : TypeName) (all : List Method) {left : List Method}
    (hleft : left ≠ []) :
    (policy.incompleteCoverage subject all left).2.diagnostics =
      coverageReport subject wording (left.filter spoken) := by
  cases hrule with
  | managed types =>
    simp only [Policy.managed]
    cases hnone : left.filter fun d => !d.isConcrete with
    | nil => rfl
    | cons d rest => rfl
  | recording verdict =>
    rw [List.filter_eq_self.2 fun _ _ => rfl]
    cases left with
    | nil => exact absurd rfl hleft
    | cons d rest => rfl

/-- **The diagnostics of `checkCoverage` are the `coverageReport`** on the `leftovers` of which it
speaks. -/
theorem diagnostics_checkCoverage (subject : TypeName) (all : List Method)
    (handled : OrderedSet Method) :
    (checkCoverage policy subject all handled).2.diagnostics =
      coverageReport subject wording ((leftovers all handled).filter spoken) := by
  have htold := fun hleft : leftovers all handled ≠ [] =>
    hrule.diagnostics_incompleteCoverage subject all hleft
  unfold checkCoverage
  cases hleft : leftovers all handled with
  | nil => rfl
  | cons d rest =>
    rw [hleft] at htold
    exact htold (by simp)

/-- With the same `leftovers`, `checkCoverage` comes to the same. -/
theorem checkCoverage_congr (subject : TypeName) {all all' : List Method}
    {handled : OrderedSet Method} (hleft : leftovers all handled = leftovers all' handled) :
    checkCoverage policy subject all handled = checkCoverage policy subject all' handled := by
  unfold checkCoverage
  rw [hleft]
  cases leftovers all' handled with
  | nil => rfl
  | cons d rest => simp only [hrule.incompleteCoverage_congr subject all all']

end Policy.CoverageRule

/-! ## Extraction -/

/-- **`SameButForOrder e e'`**: two extractions that differ in the order of methods left over only,
in `unhandled` and in the one `coverageReport`, if there is one. -/
structure Extraction.SameButForOrder (e e' : Extraction) (subject : TypeName)
    (wording : List Method → String) : Prop where
  properties : e.properties = e'.properties
  schema : e.schema = e'.schema
  requests : e.requests = e'.requests
  handled : e.handled = e'.handled
  unhandled : e.unhandled.Perm e'.unhandled
  diagnostics : ∃ before after left left', left.Perm left' ∧
    e.diagnostics = before ++ coverageReport subject wording left ++ after ∧
    e'.diagnostics = before ++ coverageReport subject wording left' ++ after

namespace Extractor

section

variable (x : Extractor) (target : TypeDescriptor) {methods methods' : List Method}

/-- Methods of one `target` for which `methodsNamed` agrees have the same `binder`. -/
theorem binder_congr (hnamed : ∀ name, methodsNamed name methods = methodsNamed name methods') :
    x.binder ⟨target, methods⟩ = x.binder ⟨target, methods'⟩ := by
  unfold binder
  rw [AccessorGroups.ofMethods_congr hnamed]

variable {spoken : Method → Bool} {wording : List Method → String}
  (hrule : x.policy.CoverageRule spoken wording)

include hrule

/-- The `coverageReport` stands between what is said of the binding and of the aspects. -/
theorem diagnostics_extract_eq (m : MethodSet) :
    (x.extract m).diagnostics =
      ((x.policy.validateHierarchy m.target).diagnostics ++ (x.binder m).bind.journal.diagnostics) ++
        coverageReport m.target.name wording
          ((leftovers m.methods (x.binder m).bind.handled).filter spoken) ++
        (x.aspects m.target.name (x.binder m).bind.properties).2.diagnostics := by
  rw [diagnostics_extract, hrule.diagnostics_checkCoverage]
  rfl

/-- **Methods of different names can come in any order**: if `methodsNamed` agrees, then the
extractions are the `SameButForOrder`. -/
theorem sameButForOrder_of_same_names
    (hnamed : ∀ name, methodsNamed name methods = methodsNamed name methods') :
    (x.extract ⟨target, methods⟩).SameButForOrder (x.extract ⟨target, methods'⟩) target.name
      wording := by
  -- The binder works on groups, in which the order across names is gone.
  have hbinder := x.binder_congr target hnamed
  have hall := mem_iff_of_methodsNamed hnamed
  have hproperties : (x.extract ⟨target, methods⟩).properties =
      (x.extract ⟨target, methods'⟩).properties :=
    congrArg (fun b : Binder => b.bind.properties) hbinder
  obtain ⟨hschema, hhandled, hunhandled⟩ := x.extract_of_same_binding target hrule.impartial hall
    hproperties (congrArg (fun b : Binder => b.bind.handled) hbinder)
  refine
    { properties := hproperties
      schema := hschema
      requests := ?_
      handled := hhandled
      unhandled := hunhandled
      diagnostics := ?_ }
  · rw [requests_extract, requests_extract, hproperties]
  · rw [x.diagnostics_extract_eq hrule, x.diagnostics_extract_eq hrule, ← hbinder]
    exact ⟨_, _, _, _, (leftovers_perm hall).filter spoken, rfl, rfl⟩

/-- **Repetitions are of no effect**: if `distinct` agrees, then `extract` does. -/
theorem extract_of_distinct_eq (h : distinct methods = distinct methods') :
    x.extract ⟨target, methods⟩ = x.extract ⟨target, methods'⟩ := by
  have hbinder := x.binder_congr target (methodsNamed_of_distinct_eq h)
  have hcoverage := hrule.checkCoverage_congr target.name
    (leftovers_of_distinct_eq h (x.binder ⟨target, methods'⟩).bind.handled)
  unfold extract
  simp only [hbinder, hcoverage]

/-- **Interleaving and repetitions do not matter.** Under `managed` and under `recording`, lists for
which `methodsNamed` agrees for every name have extractions that are the `SameButForOrder` of
methods left over; and if `distinct` agrees for the whole lists, as when later repetitions are
dropped, then nothing differs at all. -/
theorem extract_of_same_occurrences :
    ((∀ name, methodsNamed name methods = methodsNamed name methods') →
        (x.extract ⟨target, methods⟩).SameButForOrder (x.extract ⟨target, methods'⟩) target.name
          wording) ∧
      (distinct methods = distinct methods' →
        x.extract ⟨target, methods⟩ = x.extract ⟨target, methods'⟩) :=
  ⟨x.sameButForOrder_of_same_names target hrule, x.extract_of_distinct_eq target hrule⟩

end

/-- Two ordinary methods `run` and `stop` beside a getter that is listed twice. -/
def helpersAndGetter : List Method :=
  [{ name := "run", declaringType := "T", returnType := "void" },
    { name := "getX", declaringType := "T", returnType := "int" },
    { name := "stop", declaringType := "T", returnType := "void" },
    { name := "getX", declaringType := "T", returnType := "int" }]

/-- The methods of `helpersAndGetter` with the ordinary ones the other way round. -/
def getterAndHelpers : List Method :=
  [{ name := "getX", declaringType := "T", returnType := "int" },
    { name := "stop", declaringType := "T", returnType := "void" },
    { name := "run", declaringType := "T", returnType := "void" }]

/-- Every name has the same methods in `helpersAndGetter` and in `getterAndHelpers`. -/
theorem methodsNamed_helpersAndGetter (name : String) :
    methodsNamed name helpersAndGetter = methodsNamed name getterAndHelpers := by
  by_cases hrun : "run" = name
  · subst hrun
    cbv
  by_cases hget : "getX" = name
  · subst hget
    cbv
  by_cases hstop : "stop" = name
  · subst hstop
    cbv
  · -- No method has any other name.
    simp [methodsNamed, helpersAndGetter, getterAndHelpers, hrun, hget, hstop]

/-- The methods left over of `getterAndHelpers` are reported in another order, and dropping the
repetition changes nothing. -/
theorem helpersAndGetter_interleaved :
    (((managed {} {} {}).extract ⟨{ name := "T" }, helpersAndGetter⟩).SameButForOrder
        ((managed {} {} {}).extract ⟨{ name := "T" }, getterAndHelpers⟩) "T" fun left =>
          "only paired getter/setter methods are supported (invalid methods: " ++
            ", ".intercalate (left.map Method.qualifiedSignature) ++ ")") ∧
      ((managed {} {} {}).extract ⟨{ name := "T" }, helpersAndGetter⟩).unhandled ≠
        ((managed {} {} {}).extract ⟨{ name := "T" }, getterAndHelpers⟩).unhandled ∧
      (managed {} {} {}).extract ⟨{ name := "T" }, helpersAndGetter⟩ =
        (managed {} {} {}).extract ⟨{ name := "T" }, helpersAndGetter.take 3⟩ :=
  ⟨(extract_of_same_occurrences (managed {} {} {}) { name := "T" } (.managed {})).1
      methodsNamed_helpersAndGetter,
    by cbv; decide,
    (extract_of_same_occurrences (managed {} {} {}) { name := "T" } (.managed {})).2 (by cbv)⟩

end Extractor

end AccessorSchema
