import AccessorSchema.Report.Codec
import AccessorSchema.Text.Lines
import AccessorSchema.Text.Style

/-!
# Reports as text

* **`SchemaReport.terminalText`** — the report for human readers: each schema with its properties
  and aspects, then the diagnostics, with or without colours;
* **`SchemaReport.text`** — the report in the output format that is asked for.
-/

namespace AccessorSchema

/-- The forms of a written report, `json` and `terminal`. -/
inductive ReportFormat where
  | json
  | terminal
deriving DecidableEq, Repr

/-- The line of the property `p`: name, value type, and what is known of it in brackets. -/
def BoundProperty.terminalLine (colored : Bool) (p : BoundProperty) : String :=
  let access := if p.isWritable then "rw" else "r"
  let flags := [access, p.state.text] ++ if p.isOpaque then ["opaque"] else []
  "  " ++ (TextStyle.colored .green).paint colored p.name ++ ": " ++ p.valueType ++
    " [" ++ ", ".intercalate flags ++ "]"

/-- `terminalLines`: the lines of a schema, which are its type, and one line for each property. -/
def ModelSchema.terminalLines (colored : Bool) : ModelSchema → List String
  | .value name =>
    [TextStyle.bold.paint colored name ++ " " ++ TextStyle.dimmed.paint colored "(value)"]
  | .unknown name =>
    [TextStyle.bold.paint colored name ++ " " ++
      (TextStyle.colored .yellow).paint colored "(unknown)"]
  | .struct s =>
    ((TextStyle.boldColored .blue).paint colored s.typeName ++ " " ++
        TextStyle.dimmed.paint colored "(struct)") ::
      (s.properties.map (·.terminalLine colored) ++ s.aspects.map fun a => "  aspect " ++ a.name)

/-- The line of the diagnostic `d`. -/
def Diagnostic.terminalLine (colored : Bool) (d : Diagnostic) : String :=
  let color : TextColor :=
    match d.severity with
    | .error => .red
    | .warning => .yellow
  "  " ++ (TextStyle.boldColored color).paint colored d.severity.text ++ "[" ++ d.kind.text ++
    "] " ++ d.subject ++ ": " ++ d.message

namespace SchemaReport

/-- `diagnosticLines`: the lines about the diagnostics, with their number if there are any. -/
def diagnosticLines (colored : Bool) : List Diagnostic → List String
  | [] => [(TextStyle.colored .green).paint colored "No diagnostics"]
  | ds =>
    (TextStyle.bold.paint colored "Diagnostics" ++ " (" ++ toString ds.length ++ "):") ::
      ds.map (·.terminalLine colored)

/-- The report `r` for human readers. -/
def terminalText (colored : Bool) (r : SchemaReport) : String :=
  linesText <|
    [TextStyle.bold.paint colored "Schema for" ++ " " ++
        (TextStyle.boldColored .blue).paint colored r.root, ""] ++
      r.schemas.values.flatMap (·.terminalLines colored) ++
      "" :: diagnosticLines colored r.diagnostics

/-- The report in a `ReportFormat`; colours are for the terminal only. -/
def text (colored : Bool) : ReportFormat → SchemaReport → String
  | .json, r => r.json.pretty ++ "\n"
  | .terminal, r => r.terminalText colored

end SchemaReport

end AccessorSchema
