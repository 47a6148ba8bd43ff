import AccessorSchema.Aspect
import AccessorSchema.Binding
import AccessorSchema.Coverage

/-!
# Extracting the schema of one type

**`Extractor.extract`** takes the methods visible on a type and gives its schema together with all
there is to say about it: the bound properties, the diagnostics, the partition of the methods into
handled and unhandled ones, and one **`ValueRequest`** for each property whose value type has to be
looked into.

* **`Traced α`** — a value of `α` with the method sets that an extractor was handed on the way to it;
  what works with an extractor is written in this monad, over `Extractor.extractTraced`.
-/

namespace AccessorSchema

/-- The wish to know the `valueType` of the bound property `property` of `owner`. -/
structure ValueRequest where
  owner : TypeName
  property : String
  valueType : TypeName
  description : String
  /-- What there is to say once the value type's schema is known. -/
  remarks : ModelSchema → List Diagnostic

/-- The request that the property `p` of `owner` gives rise to; its `remarks` are those of
`policy.validateProperty`. -/
def ValueRequest.ofProperty (policy : Policy) (owner : TypeName) (p : BoundProperty) :
    ValueRequest where
  owner := owner
  property := p.name
  valueType := p.valueType
  description := p.description owner
  remarks := policy.validateProperty owner p

/-- `Extraction`: all that `Extractor.extract` yields for one type. -/
structure Extraction where
  schema : ModelSchema
  properties : List BoundProperty
  journal : Journal
  /-- One request for each property that is not opaque, in property order. -/
  requests : List ValueRequest
  handled : List Method
  unhandled : List Method

namespace Extraction

/-- What was objected to in the extraction `e`, in order. -/
def diagnostics (e : Extraction) : List Diagnostic := e.journal.diagnostics

/-- Whether some diagnostic of `e` is an error. -/
def hasErrors (e : Extraction) : Bool := e.diagnostics.any Diagnostic.isError

/-- Whether some diagnostic of `e` reaches the threshold `t`. -/
def fails (e : Extraction) (t : Threshold) : Bool := t.anyExceeded e.diagnostics

/-- The first property of `e` with the name `name`. -/
def property? (e : Extraction) (name : String) : Option BoundProperty :=
  e.properties.find? (·.name = name)

end Extraction

/-- What extraction depends on beside the methods of the type: the `policy`, the `hierarchy`, the
built-in `types`, and how `aspects` are read. -/
structure Extractor where
  policy : Policy
  hierarchy : TypeHierarchy
  types : TypeSettings
  aspects : AspectReader := .none

namespace Extractor

/-- The binder for the methods of `m`. -/
def binder (x : Extractor) (m : MethodSet) : Binder where
  policy := x.policy
  hierarchy := x.hierarchy
  types := x.types
  subject := m.target.name
  groups := .ofMethods m.methods

/-- **The schema of `m.target` from the methods visible on it**: they are bound by `Binder.bind`,
what is left over is put to `checkCoverage`, and the aspects of the bound properties are read. -/
def extract (x : Extractor) (m : MethodSet) : Extraction :=
  let subject := m.target.name
  let binding := (x.binder m).bind
  let (coverage, coverageJournal) := checkCoverage x.policy subject m.methods binding.handled
  let (aspects, aspectJournal) := x.aspects subject binding.properties
  { schema := .struct { typeName := subject, properties := binding.properties, aspects }
    properties := binding.properties
    journal :=
      x.policy.validateHierarchy m.target ++ binding.journal ++ coverageJournal ++ aspectJournal
    requests :=
      (binding.properties.filter (!·.isOpaque)).map (ValueRequest.ofProperty x.policy subject)
    handled := coverage.handled.toList
    unhandled := coverage.unhandled }

end Extractor

/-! ## What an extractor is handed -/

/-- **`Traced α` pairs a `value` with the method sets `extracted` on the way to it**, in order. A
program that is written in this monad uses an extractor by `Extractor.extractTraced` only, so that
`extracted` lists its uses; its result is the `value`. -/
structure Traced (α : Type) where
  value : α
  extracted : List MethodSet := []

namespace Traced

instance : Monad Traced where
  pure a := { value := a }
  bind x f := { value := (f x.value).value, extracted := x.extracted ++ (f x.value).extracted }

variable {α β : Type}

@[simp] theorem value_pure (a : α) : (pure a : Traced α).value = a := rfl

@[simp] theorem extracted_pure (a : α) : (pure a : Traced α).extracted = [] := rfl

@[simp] theorem value_bind (x : Traced α) (f : α → Traced β) :
    (x >>= f).value = (f x.value).value := rfl

/-- The trace of `x >>= f` is that of `x`, and then that of what `f` makes of its value. -/
@[simp] theorem extracted_bind (x : Traced α) (f : α → Traced β) :
    (x >>= f).extracted = x.extracted ++ (f x.value).extracted := rfl

@[simp] theorem value_seqRight (x : Traced α) (y : Traced β) : (x *> y).value = y.value := rfl

@[simp] theorem extracted_seqRight (x : Traced α) (y : Traced β) :
    (x *> y).extracted = x.extracted ++ y.extracted := rfl

end Traced

/-- `x.extract m`, which leaves `m` in the trace. -/
def Extractor.extractTraced (x : Extractor) (m : MethodSet) : Traced Extraction where
  value := x.extract m
  extracted := [m]

end AccessorSchema
