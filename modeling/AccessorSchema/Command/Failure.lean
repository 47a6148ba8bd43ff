import AccessorSchema.Failure
import AccessorSchema.File.System
import AccessorSchema.Text.Lines

/-!
# Failing commands

A **`CommandFailure`** says why a command came to nothing. **`CommandFailure.text`** is what is
written then: the headline, below it what is wrong with the form of the settings, and at last what
has led to the failure.
-/

namespace AccessorSchema

/-- Why a command came to nothing: a `cause` by itself, a catalog or a configuration file in the
way. -/
inductive CommandFailure where
  | because (cause : Failure)
  | catalogNotLoaded (path : Path) (cause : Failure)
  | configurationExists
  | configurationNotWritten (path : Path) (fault : FileFault)
deriving DecidableEq, Repr

/-- What made a file `.unreadable`. -/
def Failure.reason? : Failure → Option String
  | .unreadable _ reason => some reason
  | _ => none

namespace CommandFailure

/-- What is said of a `CommandFailure`. -/
def message : CommandFailure → String
  | .because cause => cause.message
  | .catalogNotLoaded path _ => "Failed to load catalog " ++ path
  | .configurationExists => "Configuration file already exists. Use --force to overwrite."
  | .configurationNotWritten path _ => "Failed to write " ++ path

/-- What is said of a `CommandFailure` in any case, before `explanation?`. -/
def headline : CommandFailure → String
  | .because cause => cause.headline
  | f => f.message

/-- What is wrong with the form of the settings, where there is more to say than the `headline`. -/
def explanation? : CommandFailure → Option String
  | .because cause => cause.explanation?
  | _ => none

/-- The `Failure` behind a `CommandFailure`. -/
def cause? : CommandFailure → Option Failure
  | .because cause => some cause
  | .catalogNotLoaded _ cause => some cause
  | .configurationExists => none
  | .configurationNotWritten _ _ => none

/-- What has led to a `CommandFailure`, step by step. -/
def reasons : CommandFailure → List String
  | .because cause => cause.reason?.toList
  | .catalogNotLoaded _ cause => cause.message :: cause.reason?.toList
  | .configurationExists => []
  | .configurationNotWritten _ fault => [fault.text]

/-- A reason on a line of its own, after "Caused by:"; several reasons are numbered. -/
def reasonLines : List String → List String
  | [] => []
  | [reason] => ["", "Caused by:", "    " ++ reason]
  | reasons =>
    "" :: "Caused by:" :: reasons.mapIdx fun i reason => "    " ++ toString i ++ ": " ++ reason

/-- What is written of `f`: its `headline`, its `explanation?`, and the `reasonLines`. -/
def text (f : CommandFailure) : String :=
  linesText (("Error: " ++ f.headline) :: f.explanation?.toList ++ reasonLines f.reasons)

end CommandFailure

end AccessorSchema
