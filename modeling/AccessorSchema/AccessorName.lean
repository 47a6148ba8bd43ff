import AccessorSchema.Text.LetterCase

/-!
# The naming rule for accessors

A getter is named `get` or `is` and a setter `set`, each followed by at least one more character:
the **residue**, from which the property takes its name.

* **`getterKind?`**, `isSetterName`, `isAccessorName` — the shape of a name, whatever the residue;
* **`isWellFormedResidue`** — the residue starts with a capital, or has one in second place;
* **`GetterName.classify`** — a name is no getter, a malformed getter, or a getter with its residue;
* **`decapitalize`** — the property name of a residue;
* `setterName`, `dualName` — the accessors that share a residue.
-/

namespace AccessorSchema

open LetterCase

/-- The two ways a getter name can start, `get` and `is`. -/
inductive GetterKind where
  | get
  | is
deriving DecidableEq, Repr

namespace GetterKind

/-- `kind.text`: the start of a getter name. -/
def text : GetterKind → String
  | .get => "get"
  | .is => "is"

/-- `kind.residueOrdinal`: where the residue starts, counted from one. -/
def residueOrdinal : GetterKind → String
  | .get => "4th"
  | .is => "3rd"

end GetterKind

/-- What follows `start` in `name`, if `name` starts so and goes on. -/
def residueAfter? (start name : String) : Option String :=
  let rest := name.toList.drop start.length
  if start.toList.isPrefixOf name.toList && !rest.isEmpty then some (String.ofList rest) else none

/-- How a getter-shaped name starts; `none` for a name of any other shape. -/
def getterKind? (name : String) : Option GetterKind :=
  if (residueAfter? GetterKind.get.text name).isSome then some .get
  else if (residueAfter? GetterKind.is.text name).isSome then some .is
  else none

/-- Whether `name` is that of a setter: `set`, and something after it. -/
def isSetterName (name : String) : Bool := (residueAfter? "set" name).isSome

/-- Whether `name` is that of a getter or setter, its residue well formed or not. -/
def isAccessorName (name : String) : Bool := (getterKind? name).isSome || isSetterName name

/-- A `residue` is well formed if its first or its second character is a capital (`isUppercase`). -/
def isWellFormedResidue (residue : String) : Bool :=
  match residue.toList with
  | [] => false
  | [c] => isUppercase c
  | c :: d :: _ => isUppercase c || isUppercase d

/-- What a method name is as the name of a getter: none, one with a `malformed` residue, or a
`valid` one. -/
inductive GetterName where
  | notGetter
  | malformed (kind : GetterKind)
  | valid (kind : GetterKind) (residue : String)
deriving DecidableEq, Repr

/-- Reads `name` as the name of a getter: by `getterKind?`, and then by whether its residue is well
formed. -/
def GetterName.classify (name : String) : GetterName :=
  match getterKind? name with
  | none => .notGetter
  | some kind =>
    match residueAfter? kind.text name with
    | none => .notGetter
    | some residue =>
      if isWellFormedResidue residue then .valid kind residue else .malformed kind

/-- Why a getter name that is `.malformed kind` is refused. -/
def malformedGetterMessage (kind : GetterKind) : String :=
  "the " ++ kind.residueOrdinal ++
    " character of the getter method name must be an uppercase character"

/-- The property name of a `residue`: the first character in lower case, unless the first two are
capitals (`Name` gives `name`, `URL` stays). -/
def decapitalize (residue : String) : String :=
  match residue.toList with
  | [] => residue
  | [c] => String.ofList [lowercase c]
  | c :: d :: rest =>
    if isUppercase c && isUppercase d then residue else String.ofList (lowercase c :: d :: rest)

/-- The name of the setter of a `residue`: `setName` for `Name`. -/
def setterName (residue : String) : String := "set" ++ residue

/-- The name of the `is` getter of a `residue`, the dual of its `get` getter. -/
def dualName (residue : String) : String := GetterKind.is.text ++ residue

end AccessorSchema
