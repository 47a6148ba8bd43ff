import AccessorSchema.Method

/-!
# What is being worked on

A crash report names the phase and the type that were worked on. An **`ActivityTracker`** keeps
that **`Activity`**. Setting the phase or the type yields a guard, which remembers the activity from
before; dropping the guard brings that activity back, whatever has been set since.

* `setPhase`, `setType` — set one part and issue a guard, guards being numbered from zero;
* `drop` — drops a guard; one that is not held, or not any more, changes nothing;
* `dropAll` — drops the guards still held, the latest first.
-/

namespace AccessorSchema

/-- The stages of a run, from `loading` to `outputGeneration`. -/
inductive Phase where
  | loading
  | hierarchyValidation
  | propertyBinding
  | completenessCheck
  | schemaAssembly
  | outputGeneration
deriving DecidableEq, Repr

namespace Phase

/-- A `Phase` as reports name it. -/
def text : Phase → String
  | .loading => "loading"
  | .hierarchyValidation => "hierarchy_validation"
  | .propertyBinding => "property_binding"
  | .completenessCheck => "completeness_check"
  | .schemaAssembly => "schema_assembly"
  | .outputGeneration => "output_generation"

/-- Every `Phase`, in the order of a run. -/
def all : List Phase :=
  [.loading, .hierarchyValidation, .propertyBinding, .completenessCheck, .schemaAssembly,
    .outputGeneration]

/-- The `Phase` whose `text` is `s`. -/
def ofText? (s : String) : Option Phase := all.find? (·.text = s)

end Phase

/-- The `phase` and the `type` that are worked on. -/
structure Activity where
  phase : Option Phase := none
  type : Option TypeName := none
deriving DecidableEq, Repr

/-- The `current` activity and the guards held. -/
structure ActivityTracker where
  current : Activity := {}
  /-- The guards held, the latest first, each with the activity it brings back (`drop`). -/
  held : List (Nat × Activity) := []
  /-- How many guards `set` has issued. -/
  issued : Nat := 0
deriving DecidableEq, Repr

namespace ActivityTracker

/-- Changes the activity to `a` and issues the guard `t.issued`, which remembers `t.current`. -/
def set (t : ActivityTracker) (a : Activity) : ActivityTracker where
  current := a
  held := (t.issued, t.current) :: t.held
  issued := t.issued + 1

/-- `set`, for another phase and the same type. -/
def setPhase (t : ActivityTracker) (p : Phase) : ActivityTracker :=
  t.set { t.current with phase := some p }

/-- `set`, for another type and the same phase. -/
def setType (t : ActivityTracker) (name : TypeName) : ActivityTracker :=
  t.set { t.current with type := some name }

/-- Drops a `guard`: the activity it remembers comes back. One that is not held does nothing. -/
def drop (t : ActivityTracker) (guard : Nat) : ActivityTracker :=
  match t.held.lookup guard with
  | none => t
  | some before => { t with current := before, held := t.held.filter (·.1 ≠ guard) }

/-- Forgets the `current` activity; the guards stay. -/
def reset (t : ActivityTracker) : ActivityTracker := { t with current := {} }

/-- `drop` for every guard held, the latest first. -/
def dropAll (t : ActivityTracker) : ActivityTracker := (t.held.map (·.1)).foldl drop t

end ActivityTracker

end AccessorSchema
