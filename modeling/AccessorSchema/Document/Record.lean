import AccessorSchema.Document.Codec

/-!
# Codecs of structures

A structure is written as an object with its fields in order. It is read from an object with its
members in any order, further members being passed over, or from an array with its fields in order.

* **`Field α`** — name, further names, codec, what an absent member stands for, and when the member
  is left out;
* **`Fields σ τ`** — a list of fields: `τ` is the nested pair of their values and `σ` that of the
  values met so far;
* **`Codec.record`** — the codec of a structure with given fields.
-/

namespace AccessorSchema

/-- A field of a structure, with its `name` and the `codec` of its values. -/
structure Field (α : Type) where
  name : String
  codec : Codec α
  /-- Other names under which the field is accepted. -/
  aliases : List String := []
  /-- What an object without the member stands for; without it the field is required. -/
  absent : Option α := none
  /-- What an array that ends before the field stands for. -/
  cutShort : Option α := absent
  /-- For which values the member is not written. -/
  omitted : α → Bool := fun _ => false

namespace Field

variable {α : Type}

/-- A field that has to be given. -/
def required (name : String) (codec : Codec α) : Field α := { name, codec }

/-- A field with a `value` for its absence. -/
def withDefault (name : String) (codec : Codec α) (value : α) : Field α :=
  { name, codec, absent := some value }

/-- Whether a member with the name `key` gives the field `f`. -/
def answersTo (f : Field α) (key : String) : Bool := key = f.name || f.aliases.contains key

/-- The member that is written for the value `a` of `f`, unless it is `omitted`. -/
def member (f : Field α) (a : α) : List (String × Json) :=
  if f.omitted a then [] else [(f.name, f.codec.encode a)]

/-- The value of the field `f`, which may not have been met in an object. -/
def valueOr (f : Field α) : Option α → Except DecodeError α
  | some a => .ok a
  | none =>
    match f.absent with
    | some a => .ok a
    | none => .error (.missingField f.name)

end Field

/-- The fields of a structure: `σ` holds what has been met of them, and `τ` their values. -/
structure Fields (σ τ : Type) where
  /-- How many fields there are. -/
  count : Nat
  /-- Nothing met so far. -/
  unmet : σ
  /-- Takes in a member by name; `none` if no field has the name. -/
  accept : Medium → String → Node → σ → Option (Except DecodeError σ)
  /-- The values of all fields after the last member. -/
  complete : σ → Except DecodeError τ
  /-- The values of all fields from the items of an array, with the items left over. The number
  is that of the items already used, the text what the structure is called with its length. -/
  ofItems : Medium → Nat → String → List Node → Except DecodeError (τ × List Node)
  /-- The members that are written. -/
  members : τ → List (String × Json)

namespace Fields

variable {α σ τ : Type}

/-- No fields, as the end of a list by `cons`. -/
def nil : Fields Unit Unit where
  count := 0
  unmet := ()
  accept _ _ _ _ := none
  complete _ := .ok ()
  ofItems _ _ _ items := .ok ((), items)
  members _ := []

/-- The field `f` before the fields `rest`. -/
def cons (f : Field α) (rest : Fields σ τ) : Fields (Option α × σ) (α × τ) where
  count := rest.count + 1
  unmet := (none, rest.unmet)
  accept m key n
    | (met, others) =>
      if f.answersTo key then
        some <| match met with
          | some _ => .error (.duplicateField f.name)
          | none => (f.codec.decode m n).map fun a => (some a, others)
      else (rest.accept m key n others).map fun r => r.map fun others => (met, others)
  complete
    | (met, others) => do
      let a ← f.valueOr met
      let t ← rest.complete others
      return (a, t)
  ofItems m used expected
    | [] => do
      match f.cutShort with
      | none => .error (.invalidLength used expected)
      | some a =>
        let (t, left) ← rest.ofItems m used expected []
        return ((a, t), left)
    | n :: items => do
      let a ← f.codec.decode m n
      let (t, left) ← rest.ofItems m (used + 1) expected items
      return ((a, t), left)
  members
    | (a, t) => f.member a ++ rest.members t

/-- Takes in the members of an object from left to right, by `accept`; unknown ones are passed
over. -/
def acceptAll (fields : Fields σ τ) (m : Medium) :
    σ → List (Node × Node) → Except DecodeError σ
  | met, [] => .ok met
  | met, (.string key, n) :: rest =>
    match fields.accept m key n met with
    | some (.ok met) => acceptAll fields m met rest
    | some (.error e) => .error e
    | none => if n.isWhole then acceptAll fields m met rest else .error .malformed
  | _, _ :: _ => .error .malformed

/-- A number `n` of elements, in words. -/
def elements (n : Nat) : String := toString n ++ if n = 1 then " element" else " elements"

/-- Reads the `fields` from an array. Items left over are refused, in buffered values with a remark
on their number, but passed over in TOML. -/
def decodeItems (fields : Fields σ τ) (m : Medium) (title : String) (items : List Node) :
    Except DecodeError τ := do
  let (t, left) ← fields.ofItems m 0 (title ++ " with " ++ elements fields.count) items
  match m, left with
  | _, [] => .ok t
  | .json, _ => .error .malformed
  | .buffered, _ =>
    .error (.invalidLength items.length (elements (items.length - left.length) ++ " in sequence"))
  | .toml, _ => .ok t

/-- Reads the `fields` from the `members` of an object. -/
def decodeMembers (fields : Fields σ τ) (m : Medium) (members : List (Node × Node)) :
    Except DecodeError τ := do
  let met ← fields.acceptAll m fields.unmet members
  fields.complete met

/-- Reads the `fields` of a structure that messages call `title`. -/
def decode (fields : Fields σ τ) (title : String) : Medium → Node → Except DecodeError τ
  | m, .object members => fields.decodeMembers m members
  | m, .array items => fields.decodeItems m title items
  | m, .moment => fields.decodeMembers m []
  | _, n => .error (.unexpected title n)

end Fields

/-- The codec of a structure that is put together from the values of its `fields` by `build`, and
taken apart into them by `parts`. -/
def Codec.record {α σ τ : Type} (title : String) (fields : Fields σ τ) (build : τ → α)
    (parts : α → τ) : Codec α where
  encode a := .object (fields.members (parts a))
  decode m n := (fields.decode title m n).map build

end AccessorSchema
