import AccessorSchema.Accessor
import AccessorSchema.Diagnostic
import AccessorSchema.Schema

/-!
# Policies

The extraction rules settle names and pairing; everything else is asked of a **`Policy`**. Each
hook is a function of what it is told, and what it has to say beside its answer it says in a
**`Journal`**: the diagnostics it raises and the calls it wants remembered, in order.
-/

namespace AccessorSchema

/-- A question that was put to a policy, with methods by their `qualifiedSignature`. -/
inductive PolicyCall where
  | validateHierarchy (type : TypeName)
  | classifyState (getter : String)
  | validateSetter (valueType : TypeName) (setter : String)
  | invalidGetter (getter message : String)
  | overriddenMethods (chains : List (List String))
  | overloadedMethods (methods : List String)
  | incompleteCoverage (methods : List String)
deriving DecidableEq, Repr

/-- What hooks report: `diagnostics`, and the `calls` that were recorded. -/
structure Journal where
  diagnostics : List Diagnostic := []
  calls : List PolicyCall := []
deriving DecidableEq, Repr

namespace Journal

instance : EmptyCollection Journal := ⟨{}⟩

/-- One journal after another, `j ++ k`. -/
instance : Append Journal := ⟨fun j k => ⟨j.diagnostics ++ k.diagnostics, j.calls ++ k.calls⟩⟩

/-- The journals of `l` one after another. -/
def concat (l : List Journal) : Journal :=
  ⟨l.flatMap Journal.diagnostics, l.flatMap Journal.calls⟩

@[simp] theorem diagnostics_append (j k : Journal) :
    (j ++ k).diagnostics = j.diagnostics ++ k.diagnostics := rfl

@[simp] theorem calls_append (j k : Journal) : (j ++ k).calls = j.calls ++ k.calls := rfl

@[simp] theorem empty_append (j : Journal) : (∅ : Journal) ++ j = j := rfl

@[simp] theorem append_empty (j : Journal) : j ++ (∅ : Journal) = j := by
  show Journal.mk (j.diagnostics ++ []) (j.calls ++ []) = j
  rw [List.append_nil, List.append_nil]

theorem append_assoc (j k l : Journal) : j ++ k ++ l = j ++ (k ++ l) := by
  show Journal.mk (j.diagnostics ++ k.diagnostics ++ l.diagnostics) (j.calls ++ k.calls ++ l.calls) =
    Journal.mk (j.diagnostics ++ (k.diagnostics ++ l.diagnostics)) (j.calls ++ (k.calls ++ l.calls))
  rw [List.append_assoc, List.append_assoc]

@[simp] theorem concat_nil : concat [] = ∅ := rfl

@[simp] theorem concat_cons (j : Journal) (l : List Journal) :
    concat (j :: l) = j ++ concat l := rfl

/-- A journal of one error, an objection of a `kind` to `methods` of `subject`. -/
def error (kind : DiagnosticKind) (subject : TypeName) (methods : List Method) (message : String) :
    Journal :=
  { diagnostics := [{ severity := .error, kind, subject, methods, message }] }

/-- A journal of one warning, an objection of a `kind` to `methods` of `subject`. -/
def warning (kind : DiagnosticKind) (subject : TypeName) (methods : List Method)
    (message : String) : Journal :=
  { diagnostics := [{ severity := .warning, kind, subject, methods, message }] }

/-- A journal of the one call `c`. -/
def call (c : PolicyCall) : Journal := { calls := [c] }

end Journal

/-- What a policy decides about the setter of a property, by `Policy.validateSetter`. -/
inductive SetterVerdict where
  | accept
  /-- The property is bound without the setter. -/
  | reject
deriving DecidableEq, Repr

/-- The decisions that depend on the family of types; `subject` is the type being extracted. -/
structure Policy where
  validateHierarchy (target : TypeDescriptor) : Journal
  classifyState (subject : TypeName) (getter : Accessor) : PropertyState × Journal
  validateSetter (subject valueType : TypeName) (getter setter : Accessor) : SetterVerdict × Journal
  invalidGetter (subject : TypeName) (getter : Method) (message : String) : Journal
  overriddenMethods (subject : TypeName) (chains : List (List Method)) : Journal
  overloadedMethods (subject : TypeName) (methods : List Method) : Journal
  /-- Which of the methods left `unhandled` are excused. -/
  incompleteCoverage (subject : TypeName) (all unhandled : List Method) : OrderedSet Method × Journal
  /-- What there is to say once the `schema` of the property's value type is known. -/
  validateProperty (owner : TypeName) (property : BoundProperty) (schema : ModelSchema) :
    List Diagnostic

end AccessorSchema
