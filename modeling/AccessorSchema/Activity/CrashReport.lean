import AccessorSchema.Activity
import AccessorSchema.Product
import AccessorSchema.Text.Lines

/-!
# Crash reports

A **`CrashReport`** is what is written of a crash: what the crash said and what was being worked on.
-/

namespace AccessorSchema

/-- A crash, by its `message`, and the `activity` it came upon. -/
structure CrashReport where
  /-- What the crash said, if that was a text. -/
  message : Option String
  activity : Activity
deriving DecidableEq, Repr

namespace CrashReport

/-- The lines on the activity `a`: its phase, and its type if there is one. -/
def activityLines (a : Activity) : List String :=
  let phase := (a.phase.map Phase.text).getD "(not set - crash occurred before extraction started)"
  ("  phase: " ++ phase) :: (a.type.map ("  type: " ++ ·)).toList

/-- The text of the report `r`, with its `activityLines`. -/
def text (r : CrashReport) : String :=
  linesText <|
    ["", Product.nameAndVersion ++ " crashed",
      "  panic: " ++ r.message.getD "unknown panic payload"] ++
    activityLines r.activity ++
    ["  Set RUST_BACKTRACE=1 for a backtrace."]

end CrashReport

end AccessorSchema
