import AccessorSchema.Command.Extract
import AccessorSchema.Command.Init
import AccessorSchema.Command.Line

/-!
# Running the program

**`runProgram`** reads the arguments, does what they ask for, and says what is written where and
which exit status is left: 0 if all went well, 1 if the command failed or its reports did, and 2 for a
command line that is not understood.
-/

namespace AccessorSchema

/-- What a run of the program leaves behind: its exit `status` and what it has written. -/
structure RunResult where
  status : Nat := 0
  /-- What is written to standard output. -/
  output : String := ""
  /-- What is written to standard error. -/
  errors : String := ""
deriving DecidableEq, Repr

/-- How the program is called, in the words of its help. -/
def usageText : String :=
  linesText
    ["Usage: " ++ Product.name ++ " [-v]... <COMMAND>", "",
      "  extract <CATALOG> -t <TYPE>... [-f terminal|json] [-c <FILE>]",
      "          Extract the schema of one or more types from a catalog",
      "  init [--force]",
      "          Write a default " ++ Configuration.fileName ++ " in the current directory"]

/-- What a command line without command comes to: help and version succeed, and any other
`UsageError` has the status 2. -/
def UsageError.result : UsageError → RunResult
  | .helpRequested => { output := usageText }
  | .versionRequested => { output := Product.nameAndVersion ++ "\n" }
  | _ => { status := 2, errors := usageText }

/-- What the failed command `f` comes to: the status 1. -/
def CommandFailure.result (f : CommandFailure) : RunResult := { status := 1, errors := f.text }

variable {m : Type → Type} [Monad m] [FileSystem m]

/-- Runs a command in `directory`; an extraction that has not `passed` has the status 1. -/
def Command.run (colored : Bool) (directory : Path) : Command → m RunResult
  | .extract o => do
    match ← o.run colored with
    | .error f => return f.result
    | .ok out => return { status := if out.passed then 0 else 1, output := out.text }
  | .init force => do
    match ← Configuration.writeInitial directory force with
    | .error f => return f.result
    | .ok text => return { output := text }

/-- **Runs the program** in `directory`: reads `arguments` and runs the command. -/
def runProgram (colored : Bool) (directory : Path) (arguments : List String) : m RunResult := do
  match Invocation.ofArguments arguments with
  | .error e => return e.result
  | .ok i => i.command.run colored directory

end AccessorSchema
