import AccessorSchema.Policy.Basic

/-!
# Aspects

An **`AspectReader`** reads features off the bound properties of a struct. An **`AspectRule`** is the
simple kind: it `selects` properties and may leave a `warning`; `AspectReader.ofRules` applies such
rules one after another.
-/

namespace AccessorSchema

/-- Reads aspects off the bound properties of a type, given by its name. -/
abbrev AspectReader := TypeName → List BoundProperty → List SchemaAspect × Journal

/-- An aspect of a fixed `name`, about the properties that the rule `selects`, with an optional
`warning`. -/
structure AspectRule where
  name : String
  selects : BoundProperty → Bool
  warning : Option String := none

/-- Applies `rules` one after another; each yields one aspect. -/
def AspectReader.ofRules (rules : List AspectRule) : AspectReader := fun subject properties =>
  (rules.map fun r => ⟨r.name, (properties.filter r.selects).map BoundProperty.name⟩,
    .concat <| rules.map fun r =>
      match r.warning with
      | none => ∅
      | some message => .warning .invalidGetter subject [] message)

/-- Finds no aspect: `ofRules` without rules. -/
def AspectReader.none : AspectReader := ofRules []

end AccessorSchema
