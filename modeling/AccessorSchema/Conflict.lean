import AccessorSchema.Collection.Distinct
import AccessorSchema.TypeHierarchy

/-!
# Conflicting declarations of one method

Several methods may share a name. Those of one signature form an **override chain**; those of
different signatures are **overloads**; and of any list one method is the **most specific**.

* `overrideChains` — the signatures that occur more than once, each with all its methods;
* `overloads` — one method per signature, if there are at least two signatures;
* **`TypeHierarchy.mostSpecific?`** — the list is run through once and the choice changes only for
  a more specific method, so among methods that cannot be compared the earlier one is kept.
-/

namespace AccessorSchema

/-- The part of `m` that overloads differ in: its name and its parameter types. -/
def Method.signatureKey (m : Method) : String × List TypeName := (m.name, m.parameterTypes)

theorem Method.signatureKey_eq_iff {m n : Method} :
    m.signatureKey = n.signatureKey ↔ m.SameSignature n := by
  simp [signatureKey, SameSignature]

/-- The first of the `methods` for each `signatureKey`, in the order of the list. -/
def firstOfEachSignature (methods : List Method) : List Method :=
  distinctOn Method.signatureKey methods

/-- The `methods` of each signature that occurs more than once, by first occurrence. -/
def overrideChains (methods : List Method) : List (List Method) :=
  ((firstOfEachSignature methods).map fun r => methods.filter (r.SameSignature ·)).filter
    (1 < ·.length)

/-- `firstOfEachSignature methods` if there are several signatures, and nothing otherwise. -/
def overloads (methods : List Method) : List Method :=
  let firsts := firstOfEachSignature methods
  if 1 < firsts.length then firsts else []

namespace TypeHierarchy

/-- `candidate` is more specific than `current` if a proper subtype declares it, or the same type
with a proper subtype as return type. -/
def isMoreSpecific (h : TypeHierarchy) (candidate current : Method) : Bool :=
  if candidate.declaringType = current.declaringType then
    h.isProperSubtype candidate.returnType current.returnType
  else h.isProperSubtype candidate.declaringType current.declaringType

/-- Keeps the `current` choice unless `candidate` is more specific. -/
def preferSpecific (h : TypeHierarchy) (current candidate : Method) : Method :=
  if h.isMoreSpecific candidate current then candidate else current

/-- The most specific method of a list, by `preferSpecific` from the left; only the empty list has
none. -/
def mostSpecific? (h : TypeHierarchy) : List Method → Option Method
  | [] => none
  | m :: rest => some (rest.foldl h.preferSpecific m)

@[simp] theorem mostSpecific?_eq_none {h : TypeHierarchy} {l : List Method} :
    h.mostSpecific? l = none ↔ l = [] := by
  cases l <;> simp [mostSpecific?]

end TypeHierarchy

end AccessorSchema
