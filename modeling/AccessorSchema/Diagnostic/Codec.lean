import AccessorSchema.Diagnostic
import AccessorSchema.Method.Codec

/-!
# Diagnostics in documents

The codecs of severities, kinds of diagnostics, diagnostics and thresholds.
-/

namespace AccessorSchema

/-- `Severity` by name. -/
def Severity.codec : Codec Severity :=
  .enumeration [("warning", .warning), ("error", .error)] Severity.text

/-- `DiagnosticKind` by name. -/
def DiagnosticKind.codec : Codec DiagnosticKind :=
  .enumeration
    ([.invalidGetter, .invalidSetter, .overriddenMethods, .overloadedMethods, .incompleteCoverage,
      .invalidHierarchy, .unsupportedPropertyType].map fun k => (k.text, k))
    DiagnosticKind.text

/-- `Diagnostic`, whose `methods` are only written if there are any. -/
def Diagnostic.codec : Codec Diagnostic :=
  .record "struct DiagnosticEvent"
    (.cons (.required "severity" Severity.codec) <|
      .cons (.required "kind" DiagnosticKind.codec) <|
      .cons (.required "subject" .string) <|
      .cons { Field.withDefault "methods" (.list Method.codec) [] with omitted := List.isEmpty } <|
      .cons (.required "message" .string) .nil)
    (fun (severity, kind, subject, methods, message, _) =>
      { severity, kind, subject, methods, message })
    (fun d => (d.severity, d.kind, d.subject, d.methods, d.message, ()))

/-- `Threshold` by name. -/
def Threshold.codec : Codec Threshold :=
  .enumeration [("warning", .warning), ("error", .error)] Threshold.text

end AccessorSchema
