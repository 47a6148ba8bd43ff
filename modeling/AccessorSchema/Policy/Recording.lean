import AccessorSchema.Policy.Basic

/-!
# A policy that records

**`Policy.recording`** remembers every call, reports each objection it is told of as an error with a
fixed wording, and gives every setter the same verdict. It excuses nothing.
-/

namespace AccessorSchema

/-- Records every call in the journal and decides every setter by one `verdict`. -/
def Policy.recording (verdict : SetterVerdict) : Policy where
  validateHierarchy target := .call (.validateHierarchy target.name)
  classifyState _ getter := (.managed, .call (.classifyState getter.mostSpecific.qualifiedSignature))
  validateSetter subject valueType _ setter :=
    (verdict,
      .call (.validateSetter valueType setter.mostSpecific.qualifiedSignature) ++
        match verdict with
        | .accept => ∅
        | .reject => .error .invalidSetter subject setter.declarations "setter rejected")
  invalidGetter subject getter message :=
    .call (.invalidGetter getter.qualifiedSignature message) ++
      .error .invalidGetter subject [getter] message
  overriddenMethods subject chains :=
    .call (.overriddenMethods (chains.map (·.map Method.qualifiedSignature))) ++
      .error .overriddenMethods subject chains.flatten "overridden methods"
  overloadedMethods subject methods :=
    .call (.overloadedMethods (methods.map Method.qualifiedSignature)) ++
      .error .overloadedMethods subject methods "overloaded methods"
  incompleteCoverage subject _ unhandled :=
    (∅, .call (.incompleteCoverage (unhandled.map Method.qualifiedSignature)) ++
      .error .incompleteCoverage subject unhandled "unhandled methods")
  validateProperty _ _ _ := []

end AccessorSchema
