import AccessorSchema.Policy.Basic

/-!
# Coverage

Every method of a type has to be accounted for. **`checkCoverage`** hands the methods that no group
has accounted for to the policy; those it excuses count as handled and the rest stays unhandled.
-/

namespace AccessorSchema

/-- The methods of a type, parted into those accounted for, `handled`, and the `unhandled` ones. -/
structure Coverage where
  handled : OrderedSet Method
  unhandled : List Method
deriving DecidableEq, Repr

/-- The methods of `all` that are not yet `handled`, each once, in the order of the list. -/
def leftovers (all : List Method) (handled : OrderedSet Method) : List Method :=
  distinct (all.filter (· ∉ handled))

/-- Lets `policy.incompleteCoverage` excuse the `leftovers`, if there are any. -/
def checkCoverage (policy : Policy) (subject : TypeName) (all : List Method)
    (handled : OrderedSet Method) : Coverage × Journal :=
  match leftovers all handled with
  | [] => (⟨handled, []⟩, ∅)
  | rest =>
    let (excused, journal) := policy.incompleteCoverage subject all rest
    (⟨handled.insertMany (rest.filter (· ∈ excused)), rest.filter (· ∉ excused)⟩, journal)

end AccessorSchema
