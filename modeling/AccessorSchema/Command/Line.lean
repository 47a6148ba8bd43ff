import AccessorSchema.Command.Basic

/-!
# Command lines

**`Invocation.ofArguments`** reads the arguments of the program. They belong to the program itself
up to the name of a command, and to the command from there on.

A long option may have its value after an equals sign, a short one right behind its letter, and short
options without value may share one dash. Otherwise the value of an option is the next argument,
unless that looks like an option; after `--` nothing does. A value that is an argument of its own
is examined only when the next parameter is met or the arguments end.

* `Parameter`, `Scope` — what there is to say on a command line, and where;
* **`ArgumentReader.step`** — one argument;
* `UsageError` — what is wrong with a command line, or asked for instead of a command.
-/

namespace AccessorSchema

/-- Why a command line leads to no command, which `helpRequested` and `versionRequested` are reasons
for, too. -/
inductive UsageError where
  | helpRequested
  | versionRequested
  /-- Nothing was asked for. -/
  | nothingRequested
  /-- There are options but no command. -/
  | missingCommand
  | unknownCommand
  | unknownArgument
  /-- A value is missing or not acceptable. -/
  | invalidValue
  /-- A value was given to an option that takes none. -/
  | unexpectedValue
  | repeatedOption
  | missingArgument
deriving DecidableEq, Repr

/-- What can be given on a command line: the options, and the `catalog`. -/
inductive Parameter where
  | verbose
  | help
  | version
  | force
  | type
  | format
  | config
  | catalog
deriving DecidableEq, Repr

namespace Parameter

/-- Whether a value belongs to a `Parameter`. -/
def takesValue : Parameter → Bool
  | .type | .format | .config | .catalog => true
  | .verbose | .help | .version | .force => false

/-- The letter of an option, as in `-v`. -/
def letter? : Parameter → Option Char
  | .verbose => some 'v'
  | .help => some 'h'
  | .version => some 'V'
  | .type => some 't'
  | .format => some 'f'
  | .config => some 'c'
  | .force | .catalog => none

/-- The long name of an option, as in `--verbose`. -/
def longName? : Parameter → Option String
  | .verbose => some "verbose"
  | .help => some "help"
  | .version => some "version"
  | .force => some "force"
  | .type => some "type"
  | .format => some "format"
  | .config => some "config"
  | .catalog => none

end Parameter

/-- Whom arguments belong to: the `program`, or one of its commands. -/
inductive Scope where
  | program
  | extract
  | init
deriving DecidableEq, Repr

namespace Scope

/-- The options that a `Scope` has. -/
def options : Scope → List Parameter
  | .program => [.verbose, .help, .version]
  | .extract => [.type, .format, .config, .verbose, .help]
  | .init => [.force, .verbose, .help]

/-- The parameters of a `Scope` that are given without a name, in order. -/
def positionals : Scope → List Parameter
  | .extract => [.catalog]
  | .program | .init => []

/-- The option of `s` with the letter `c`. -/
def ofLetter? (s : Scope) (c : Char) : Option Parameter :=
  s.options.find? fun p => p.letter? = some c

/-- The option of `s` with the long name `name`. -/
def ofLongName? (s : Scope) (name : String) : Option Parameter :=
  s.options.find? fun p => p.longName? = some name

/-- The arguments that name a command, `help` among them. -/
def commandNames : List String := ["extract", "init", "help"]

/-- What an `argument` is that fits nowhere in `s`: the program takes it for a command. -/
def misfit (s : Scope) (trailing : Bool) (argument : String) : UsageError :=
  match s with
  | .program =>
    if trailing && commandNames.contains argument then .unknownArgument else .unknownCommand
  | .extract | .init => .unknownArgument

end Scope

/-- The values given so far, where `verbosity` counts and `types` lists. -/
structure Arguments where
  verbosity : Nat := 0
  force : Bool := false
  types : List TypeName := []
  format : Option ReportFormat := none
  config : Option Path := none
  catalog : Option Path := none
deriving DecidableEq, Repr

namespace Arguments

/-- The `ReportFormat` of a name. -/
def formatOf? : String → Option ReportFormat
  | "json" => some .json
  | "terminal" => some .terminal
  | _ => none

/-- The path `text`, which is not empty. -/
def pathOf (text : String) : Except UsageError Path :=
  if text = "" then .error .invalidValue else .ok text

/-- Takes an option without value into `a`. -/
def takeSwitch (a : Arguments) : Parameter → Except UsageError Arguments
  | .verbose => .ok { a with verbosity := min (a.verbosity + 1) Invocation.maxVerbosity }
  | .help => .error .helpRequested
  | .version => .error .versionRequested
  | .force => if a.force then .error .repeatedOption else .ok { a with force := true }
  | .type | .format | .config | .catalog => .error .invalidValue

/-- Takes a parameter with its `value` into `a`. -/
def takeValue (a : Arguments) (value : String) : Parameter → Except UsageError Arguments
  | .type => .ok { a with types := a.types ++ [value] }
  | .format =>
    if a.format.isSome then .error .repeatedOption
    else
      match formatOf? value with
      | some f => .ok { a with format := some f }
      | none => .error .invalidValue
  | .config =>
    if a.config.isSome then .error .repeatedOption
    else (pathOf value).map fun p => { a with config := some p }
  | .catalog => (pathOf value).map fun p => { a with catalog := some p }
  | .verbose | .help | .version | .force => .error .unexpectedValue

end Arguments

/-- A `parameter` that has been met and whose `value` has not been examined. -/
structure PendingParameter where
  parameter : Parameter
  value : Option String
deriving DecidableEq, Repr

/-- The state while arguments are read: the values in `arguments`, and the one that is `pending`. -/
structure ArgumentReader where
  arguments : Arguments := {}
  pending : Option PendingParameter := none
  /-- The parameters without name that have not been met. -/
  positionals : List Parameter
  /-- Whether options have come to an end, by the argument `--`. -/
  trailing : Bool := false
deriving DecidableEq, Repr

namespace ArgumentReader

/-- Examines the `pending` value by `takeValue`. -/
def resolve (r : ArgumentReader) : Except UsageError ArgumentReader :=
  match r.pending with
  | none => .ok r
  | some ⟨_, none⟩ => .error .invalidValue
  | some ⟨p, some value⟩ =>
    (r.arguments.takeValue value p).map fun a => { r with arguments := a, pending := none }

/-- Meets the option `p`, which has no value. -/
def meetSwitch (r : ArgumentReader) (p : Parameter) : Except UsageError ArgumentReader := do
  let r ← r.resolve
  return { r with arguments := ← r.arguments.takeSwitch p }

/-- Meets the option `p` with its `value` attached. -/
def meetAttached (r : ArgumentReader) (p : Parameter) (value : String) :
    Except UsageError ArgumentReader := do
  let r ← r.resolve
  return { r with arguments := ← r.arguments.takeValue value p }

/-- Meets the parameter `p`, whose value is an argument, already there or still to come. -/
def meetDetached (r : ArgumentReader) (p : Parameter) (value : Option String) :
    Except UsageError ArgumentReader := do
  let r ← r.resolve
  return { r with pending := some ⟨p, value⟩ }

/-- Takes a long option of `scope`, with the `value` behind its equals sign if there is one. -/
def takeLong (r : ArgumentReader) (scope : Scope) (name : String) (value : Option String) :
    Except UsageError ArgumentReader :=
  match scope.ofLongName? name with
  | none => .error .unknownArgument
  | some p =>
    match p.takesValue, value with
    | true, some value => r.meetAttached p value
    | true, none => r.meetDetached p none
    | false, some _ => .error .unexpectedValue
    | false, none => r.meetSwitch p

/-- Takes the letters behind a dash as options of `scope`. -/
def takeLetters (r : ArgumentReader) (scope : Scope) : List Char → Except UsageError ArgumentReader
  | [] => .ok r
  | c :: rest =>
    match scope.ofLetter? c with
    | none => .error .unknownArgument
    | some p =>
      if p.takesValue then
        match rest with
        | [] => r.meetDetached p none
        | '=' :: value => r.meetAttached p (String.ofList value)
        | value => r.meetAttached p (String.ofList value)
      else do
        let r ← r.meetSwitch p
        r.takeLetters scope rest

/-- Takes an `argument` that is no option: the value that is waited for, or the next of the
`positionals`. -/
def takeBare (r : ArgumentReader) (scope : Scope) (argument : String) :
    Except UsageError ArgumentReader :=
  match r.pending, r.trailing with
  -- The option met last is still without its value.
  | some ⟨p, none⟩, false => .ok { r with pending := some ⟨p, some argument⟩ }
  | _, _ =>
    match r.positionals with
    | [] => .error (scope.misfit r.trailing argument)
    | p :: rest => do
      let r ← r.meetDetached p (some argument)
      return { r with positionals := rest }

/-- Splits the `text` of a long option at its first equals sign. -/
def splitLong (text : List Char) : String × Option String :=
  let name := String.ofList (text.takeWhile (· ≠ '='))
  match text.dropWhile (· ≠ '=') with
  | [] => (name, none)
  | _ :: value => (name, some (String.ofList value))

/-- Takes one `argument` in `scope`. -/
def step (scope : Scope) (r : ArgumentReader) (argument : String) :
    Except UsageError ArgumentReader :=
  if r.trailing then r.takeBare scope argument
  else
    match argument.toList with
    | ['-', '-'] => .ok { r with trailing := true }
    | '-' :: '-' :: text =>
      let (name, value) := splitLong text
      r.takeLong scope name value
    | '-' :: c :: letters => r.takeLetters scope (c :: letters)
    | _ => r.takeBare scope argument

end ArgumentReader

namespace Arguments

/-- Reads all `arguments` of a command by `step`, and what is still pending by `resolve`. -/
def read (scope : Scope) (arguments : List String) : Except UsageError Arguments := do
  let start : ArgumentReader := { positionals := scope.positionals }
  let r ← arguments.foldlM (ArgumentReader.step scope) start
  return (← r.resolve).arguments

end Arguments

namespace Invocation

/-- Reads the arguments of a request for help, which may name a command. -/
def readHelp : List String → UsageError
  | [] => .helpRequested
  | [name] => if Scope.commandNames.contains name then .helpRequested else .unknownCommand
  | _ => .unknownCommand

/-- Reads the command `name` and its `arguments`; `outer` is the verbosity asked for before the
command, which counts if the command asks for none. -/
def readCommand (outer : Nat) (name : String) (arguments : List String) :
    Except UsageError Invocation := do
  match name with
  | "extract" =>
    let a ← Arguments.read .extract arguments
    let verbosity := if a.verbosity = 0 then outer else a.verbosity
    -- What is missing is noticed last, after everything that is wrong.
    match a.catalog, a.types with
    | none, _ => throw .missingArgument
    | _, [] => throw .missingArgument
    | some catalog, types =>
      return {
        verbosity
        command := .extract
          { catalog, types, format := a.format.getD .terminal, config := a.config } }
  | "init" =>
    let a ← Arguments.read .init arguments
    return {
      verbosity := if a.verbosity = 0 then outer else a.verbosity
      command := .init a.force }
  | _ => throw (readHelp arguments)

/-- What is wrong with a command line that names no command, once `a` has been read. -/
def commandless (a : Arguments) : UsageError :=
  if a.verbosity = 0 then .nothingRequested else .missingCommand

/-- Reads the arguments of the program up to a command, and then those of the command by
`readCommand`. -/
def readFrom (r : ArgumentReader) : List String → Except UsageError Invocation
  | [] => .error (commandless r.arguments)
  | argument :: rest =>
    if !r.trailing && Scope.commandNames.contains argument then
      readCommand r.arguments.verbosity argument rest
    else do
      let r ← ArgumentReader.step .program r argument
      readFrom r rest

/-- **The invocation that `arguments` stand for**, or why there is none. -/
def ofArguments (arguments : List String) : Except UsageError Invocation :=
  readFrom { positionals := Scope.positionals .program } arguments

end Invocation

end AccessorSchema
