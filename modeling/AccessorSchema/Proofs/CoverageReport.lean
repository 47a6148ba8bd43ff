import AccessorSchema.Proofs.CollectedDiagnostics
import AccessorSchema.Proofs.Interleaving

/-!
# What is reported of unhandled methods

Under the policy for managed structs two selections are made of the methods left over: the policy takes
those without implementation into its report, and the coverage check keeps those that were not excused.
They come to the same list, and no other rule reports under the same kind.

* **`CoverageReported`** — of a list of methods left unhandled there is one error, which lists them;
* **`Extractor.unhandled_managed_eq`** — the unhandled methods are the leftovers without implementation;
* **`Extractor.unhandled_reported`** — the report of an extraction and its unhandled methods agree.
-/

namespace AccessorSchema

/-! ## Reports of unhandled methods -/

/-- The words in which `Policy.managed` objects to the methods `left` over. -/
def uncoveredMessage (left : List Method) : String :=
  "only paired getter/setter methods are supported (invalid methods: " ++
    ", ".intercalate (left.map Method.qualifiedSignature) ++ ")"

/-- **Unhandled methods are reported in one error of `ds`**, and there is none if all methods are
handled. -/
structure CoverageReported (unhandled : List Method) (ds : List Diagnostic) : Prop where
  /-- No second diagnostic is of the kind `.incompleteCoverage`. -/
  once : ds.countP (·.kind = .incompleteCoverage) ≤ 1
  present : (∃ d ∈ ds, d.kind = .incompleteCoverage) ↔ unhandled ≠ []
  /-- The error names the `unhandled` methods in their order. -/
  lists : ∀ d ∈ ds, d.kind = .incompleteCoverage →
    d.isError = true ∧ d.methods = unhandled ∧ d.message = uncoveredMessage unhandled

namespace CoverageReported

variable {unhandled : List Method} {ds : List Diagnostic}

/-- The report of `checkCoverage`, on the methods `left`, is all there is to report. -/
theorem of_coverageReport (subject : TypeName) (left : List Method) :
    CoverageReported left (coverageReport subject uncoveredMessage left) := by
  cases left with
  | nil =>
    refine ⟨Nat.zero_le 1, ?_, fun d hd => absurd hd List.not_mem_nil⟩
    simp [coverageReport]
  | cons m rest =>
    refine ⟨List.countP_le_length, ?_, fun d hd _ => ?_⟩
    · simp [coverageReport]
    · obtain rfl := List.mem_singleton.1 hd
      exact ⟨rfl, rfl, rfl⟩

/-- `CoverageReported` with diagnostics of other kinds around the report, `before` and `after`. -/
theorem surround (h : CoverageReported unhandled ds) (before after : List Diagnostic)
    (hbefore : ∀ d ∈ before, d.kind ≠ .incompleteCoverage)
    (hafter : ∀ d ∈ after, d.kind ≠ .incompleteCoverage) :
    CoverageReported unhandled (before ++ ds ++ after) := by
  -- Only what the report itself holds is of its kind.
  have hmem : ∀ d, d ∈ before ++ ds ++ after ∧ d.kind = .incompleteCoverage ↔
      d ∈ ds ∧ d.kind = .incompleteCoverage := by
    intro d
    rw [List.mem_append, List.mem_append]
    constructor
    · rintro ⟨(hd | hd) | hd, hkind⟩
      · exact absurd hkind (hbefore d hd)
      · exact ⟨hd, hkind⟩
      · exact absurd hkind (hafter d hd)
    · rintro ⟨hd, hkind⟩
      exact ⟨.inl (.inr hd), hkind⟩
  have hcount : ∀ l : List Diagnostic, (∀ d ∈ l, d.kind ≠ .incompleteCoverage) →
      l.countP (·.kind = .incompleteCoverage) = 0 := by
    intro l hl
    simpa using hl
  refine ⟨?_, ?_, fun d hd hkind => ?_⟩
  · rw [List.countP_append, List.countP_append, hcount before hbefore, hcount after hafter]
    simpa using h.once
  · exact (exists_congr hmem).trans h.present
  · exact h.lists d ((hmem d).1 ⟨hd, hkind⟩).1 hkind

end CoverageReported

/-! ## Extraction -/

namespace Extractor

section

variable {x : Extractor} {types : TypeSettings} (hpolicy : x.policy = .managed types) {m : MethodSet}

include hpolicy

/-- **The methods left unhandled are the `leftovers` without implementation**, because the others
are excused. -/
theorem unhandled_managed_eq :
    (x.extract m).unhandled =
      (leftovers m.methods (x.binder m).bind.handled).filter (!·.isConcrete) := by
  rw [extract_unhandled, checkCoverage_unhandled, hpolicy]
  refine List.filter_congr fun d hd => ?_
  have hexcused : d ∈ excusedMethods (.managed types) m.target.name m.methods
      (x.binder m).bind.handled ↔ d.isConcrete = true :=
    mem_excusedMethods_managed.trans (and_iff_right hd)
  cases hconcrete : d.isConcrete with
  | true => simp [hexcused, hconcrete]
  | false => simp [hexcused, hconcrete]

/-- **What is reported before aspects are read**, `own`: the rules for the type and for its methods
come first, and the report of unhandled methods after them. -/
theorem exists_coverageReported_of_managed :
    ∃ own, (x.extract m).diagnostics =
        own ++ (x.aspects m.target.name (x.extract m).properties).2.diagnostics ∧
      CoverageReported (x.extract m).unhandled own := by
  have hrule : x.policy.CoverageRule (!·.isConcrete) uncoveredMessage := hpolicy ▸ .managed types
  refine ⟨_, x.diagnostics_extract_eq hrule m, ?_⟩
  rw [unhandled_managed_eq hpolicy]
  have hreport := CoverageReported.of_coverageReport m.target.name
    ((leftovers m.methods (x.binder m).bind.handled).filter (!·.isConcrete))
  -- Neither the rules for the type nor those for its methods are about coverage.
  have hbefore : ∀ d ∈ (x.policy.validateHierarchy m.target).diagnostics ++
      (x.binder m).bind.journal.diagnostics, d.kind ≠ .incompleteCoverage := by
    intro d hd hkind
    have hother := kind_of_managed hpolicy hd
    rw [hkind] at hother
    exact absurd hother (by decide)
  simpa using hreport.surround _ [] hbefore (by simp)

end

/-- **The coverage error lists exactly the unhandled methods.** Under `Policy.managed` only methods
without implementation stay unhandled. They are reported in one error, which lists them in their
order (`uncoveredMessage`), and if there are none, nothing is reported; `aspects`, which are read
last, could report under the same rule, and unless they do, this is all there is of its kind. -/
theorem unhandled_reported (policyTypes types : TypeSettings) (h : TypeHierarchy)
    (aspects : AspectReader) (m : MethodSet) :
    let e := ({ managed policyTypes types h with aspects } : Extractor).extract m
    (∀ d ∈ e.unhandled, d.isConcrete = false) ∧
      (∃ own, e.diagnostics = own ++ (aspects m.target.name e.properties).2.diagnostics ∧
        CoverageReported e.unhandled own) ∧
      ((∀ d ∈ (aspects m.target.name e.properties).2.diagnostics, d.kind ≠ .incompleteCoverage) →
        CoverageReported e.unhandled e.diagnostics) := by
  intro e
  have hpolicy : ({ managed policyTypes types h with aspects } : Extractor).policy =
    .managed policyTypes := rfl
  obtain ⟨own, hdiagnostics, hown⟩ := exists_coverageReported_of_managed hpolicy (m := m)
  refine ⟨fun d hd => ?_, ⟨own, hdiagnostics, hown⟩, fun haspects => ?_⟩
  · rw [unhandled_managed_eq hpolicy] at hd
    simpa using (List.mem_filter.1 hd).2
  · rw [hdiagnostics]
    exact hown.surround [] _ (by simp) haspects

/-- A method `aid` with an implementation between two without, none of them an accessor. -/
def strays : MethodSet where
  target := { name := "T" }
  methods :=
    [{ name := "run", declaringType := "T", returnType := "void" },
      { name := "aid", declaringType := "T", returnType := "int", markers := .ofList [.concrete] },
      { name := "end", declaringType := "T", returnType := "void" }]

/-- The two methods of `strays` without implementation are reported in the order they were given,
beside a warning of an aspect. -/
theorem strays_reported :
    let e := ({ managed {} {} {} with
      aspects := .ofRules [⟨"editable", BoundProperty.isWritable, some "look here"⟩] } :
        Extractor).extract strays
    e.unhandled.map Method.name = ["run", "end"] ∧ CoverageReported e.unhandled e.diagnostics := by
  intro e
  constructor
  · show ((managed {} {} {}).extract strays).unhandled.map Method.name = ["run", "end"]
    cbv
  · refine (unhandled_reported {} {} {} _ strays).2.2 fun d hd hkind => ?_
    have hwarning : d.kind = .invalidGetter := AspectReader.kind_of_mem_ofRules hd
    rw [hkind] at hwarning
    exact absurd hwarning (by decide)

end Extractor

end AccessorSchema
