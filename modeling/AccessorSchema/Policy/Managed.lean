import AccessorSchema.Policy.Basic
import AccessorSchema.TypeSettings

/-!
# The policy for managed structs

Managed structs are interfaces or abstract classes whose abstract properties the model layer
implements. **`Policy.managed`** refuses concrete classes, malformed setters, overridden methods
without implementation and whatever is neither accessor nor implemented.
-/

namespace AccessorSchema

/-- What is wrong with `setter` for a property of the type `valueType` that `getter` reads, in the
order it is reported. -/
def setterProblems (types : TypeSettings) (valueType : TypeName) (getter setter : Method) :
    List String :=
  (if setter.arity ≠ 1 then ["setter method must declare exactly one parameter"] else []) ++
  (if types.isVoid setter.returnType then [] else
    ["setter method must have " ++ types.void ++ " return type (found: " ++ setter.returnType ++
      ")"]) ++
  (match setter.parameterTypes with
    | [] => []
    | p :: _ =>
      if p = valueType then [] else
        ["setter method param must be of exactly the same type as the getter returns (expected: " ++
          valueType ++ ", found: " ++ p ++ ")"]) ++
  (if !getter.isConcrete && setter.isConcrete then
    ["setter of a managed property cannot have an implementation"] else [])

/-- An objection to the one accessor `m`, with the `reason` for it. -/
def invalidAccessorMessage (m : Method) (reason : String) : String :=
  "invalid property accessor " ++ m.signature ++ ": " ++ reason

/-- The policy for managed structs over the built-in `types`: concrete classes, unfit setters,
overloads and methods left over are errors. -/
def Policy.managed (types : TypeSettings) : Policy where
  validateHierarchy target :=
    if target.kind = .concreteClass then
      .error .invalidHierarchy target.name []
        ("type " ++ target.name ++ " must be an interface or an abstract class, not a " ++
          target.kind.text)
    else ∅
  classifyState _ getter :=
    (if getter.mostSpecific.isConcrete then .unmanaged else .managed, ∅)
  validateSetter subject valueType getter setter :=
    let declaration := setter.mostSpecific
    match setterProblems types valueType getter.mostSpecific declaration with
    | [] => (.accept, ∅)
    | problems =>
      (.reject, .concat <| problems.map fun reason =>
        .error .invalidSetter subject [declaration] (invalidAccessorMessage declaration reason))
  invalidGetter subject getter message :=
    .error .invalidGetter subject [getter] (invalidAccessorMessage getter message)
  overriddenMethods subject chains :=
    .concat <| chains.map fun chain =>
      if chain.all Method.isConcrete then ∅
      else
        .error .overriddenMethods subject chain
          ("method " ++ (chain.head?.map Method.signature).getD "" ++
            " is overridden but has no implementation")
  overloadedMethods subject methods :=
    .error .overloadedMethods subject methods
      ("overloaded methods are not supported: " ++ ", ".intercalate (methods.map Method.signature))
  incompleteCoverage subject _ unhandled :=
    let invalid := unhandled.filter (!·.isConcrete)
    (.ofList (unhandled.filter Method.isConcrete),
      if invalid.isEmpty then ∅
      else
        .error .incompleteCoverage subject invalid
          ("only paired getter/setter methods are supported (invalid methods: " ++
            ", ".intercalate (invalid.map Method.qualifiedSignature) ++ ")"))
  validateProperty owner property
    | .unknown typeName =>
      [{ severity := .error
         kind := .unsupportedPropertyType
         subject := owner
         message :=
          "type " ++ typeName ++ " cannot be used for property '" ++ property.name ++
            "'; mark the getter unmanaged or declare the type" }]
    | _ => []

end AccessorSchema
