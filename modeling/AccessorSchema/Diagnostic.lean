import AccessorSchema.Method

/-!
# Diagnostics

Extraction does not fail: whatever it objects to becomes a **`Diagnostic`** about the type it works
on, and a **`Threshold`** decides afterwards whether the diagnostics amount to a failure.
-/

namespace AccessorSchema

/-- How serious a diagnostic is; `warning` is less than `error`. -/
inductive Severity where
  | warning
  | error
deriving DecidableEq, Repr

namespace Severity

/-- A `Severity` as messages name it. -/
def text : Severity → String
  | .warning => "warning"
  | .error => "error"

/-- `max s t`: the more serious of two severities. -/
def max : Severity → Severity → Severity
  | .error, _ => .error
  | .warning, s => s

end Severity

/-- `DiagnosticKind`: the rule that raised a diagnostic. -/
inductive DiagnosticKind where
  | invalidGetter
  | invalidSetter
  | overriddenMethods
  | overloadedMethods
  | incompleteCoverage
  | invalidHierarchy
  | unsupportedPropertyType
deriving DecidableEq, Repr

/-- A `DiagnosticKind` as messages name it. -/
def DiagnosticKind.text : DiagnosticKind → String
  | .invalidGetter => "invalid-getter"
  | .invalidSetter => "invalid-setter"
  | .overriddenMethods => "overridden-methods"
  | .overloadedMethods => "overloaded-methods"
  | .incompleteCoverage => "incomplete-coverage"
  | .invalidHierarchy => "invalid-hierarchy"
  | .unsupportedPropertyType => "unsupported-property-type"

/-- One objection of a `severity` and a `kind`, raised while a type was extracted. -/
structure Diagnostic where
  severity : Severity
  kind : DiagnosticKind
  /-- The type whose extraction raised it. -/
  subject : TypeName
  methods : List Method := []
  message : String
deriving DecidableEq, Repr

namespace Diagnostic

/-- Whether `d` is an error. -/
def isError (d : Diagnostic) : Bool := d.severity = .error

/-- `d` on one line, with the `methods` it lists in brackets. -/
def text (d : Diagnostic) : String :=
  let line := d.severity.text ++ "[" ++ d.kind.text ++ "] " ++ d.subject ++ ": " ++ d.message
  if d.methods.isEmpty then line
  else line ++ " (" ++ ", ".intercalate (d.methods.map Method.qualifiedSignature) ++ ")"

/-- The most serious `severity` among diagnostics, by `max`. -/
def maxSeverity? : List Diagnostic → Option Severity
  | [] => none
  | d :: rest => some (rest.foldl (fun s e => s.max e.severity) d.severity)

end Diagnostic

/-- `Threshold`: the lowest severity that counts as a failure. -/
inductive Threshold where
  | warning
  | error
deriving DecidableEq, Repr

namespace Threshold

/-- A `Threshold` as settings name it. -/
def text : Threshold → String
  | .warning => "warning"
  | .error => "error"

/-- Whether a severity reaches a `Threshold`. -/
def isExceededBy : Threshold → Severity → Bool
  | .warning, _ => true
  | .error, s => s = .error

/-- Whether some diagnostic of `ds` reaches the threshold `t`. -/
def anyExceeded (t : Threshold) (ds : List Diagnostic) : Bool :=
  ds.any (t.isExceededBy ·.severity)

end Threshold

end AccessorSchema
