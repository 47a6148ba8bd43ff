import AccessorSchema.File.Path
import AccessorSchema.Report.Output

/-!
# Commands

A **`Command`** is one thing the program can be asked to do: to extract types from a catalog or to
write a configuration file. An **`Invocation`** is a command together with how much is to be logged.
-/

namespace AccessorSchema

/-- What the command `extract` is asked for, with the `format` of its reports. -/
structure ExtractOptions where
  /-- The catalog file. -/
  catalog : Path
  /-- The root types, in the order of the reports. -/
  types : List TypeName
  format : ReportFormat := .terminal
  /-- The configuration file; without one the nearest is looked for (`Configuration.discover`). -/
  config : Option Path := none
deriving DecidableEq, Repr

/-- One thing the program can be asked to do: to `extract` types, or to write a first configuration
file. -/
inductive Command where
  | extract (options : ExtractOptions)
  /-- Write a configuration file, over an existing one only by `force`. -/
  | init (force : Bool)
deriving DecidableEq, Repr

/-- The least important messages that are logged, from `warn` to `trace`. -/
inductive LogLevel where
  | warn
  | info
  | debug
  | trace
deriving DecidableEq, Repr

namespace LogLevel

/-- The level that a number of requests for more messages leads to; none leaves it at `warn`. -/
def ofVerbosity : Nat → LogLevel
  | 0 => .warn
  | 1 => .info
  | 2 => .debug
  | _ => .trace

/-- A `LogLevel` as logs name it. -/
def text : LogLevel → String
  | .warn => "WARN"
  | .info => "INFO"
  | .debug => "DEBUG"
  | .trace => "TRACE"

end LogLevel

/-- A `command`, and by its `verbosity` how much is logged. -/
structure Invocation where
  verbosity : Nat
  command : Command
deriving DecidableEq, Repr

namespace Invocation

/-- The `verbosity` that more requests do not exceed. -/
def maxVerbosity : Nat := 255

/-- What is logged in the invocation `i`, by `ofVerbosity`. -/
def level (i : Invocation) : LogLevel := .ofVerbosity i.verbosity

end Invocation

end AccessorSchema
