import AccessorSchema.Collection.OrderedSet
import AccessorSchema.Document.Node

/-!
# Codecs between values and documents

A **`Codec α`** writes values of a type as JSON and reads them from documents. Reading stops at the
first **`DecodeError`** from left to right. What exactly is accepted depends a little on the
**`Medium`** the document comes in; where the media differ, the codec says how.

This module has the codecs of strings, booleans, lists, sets, optional values and enumerations;
`Record` adds those of structures.
-/

namespace AccessorSchema

/-- Why a document cannot be read as a value of some type; `message?` gives the explanation. -/
inductive DecodeError where
  /-- The text is no document, or in a form for which there is no further explanation. -/
  | malformed
  | invalidType (found expected : String)
  | invalidValue (found expected : String)
  | invalidLength (found : Nat) (expected : String)
  | unknownVariant (found : String) (expected : List String)
  | missingField (name : String)
  | duplicateField (name : String)
  /-- An escape gives a number that is not the number of any character. -/
  | noSuchCharacter
deriving DecidableEq, Repr

namespace DecodeError

/-- `s` between backquotes. -/
def ticked (s : String) : String := "`" ++ s ++ "`"

/-- The permitted names as messages list them, each `ticked`. -/
def oneOf : List String → String
  | [a] => ticked a
  | [a, b] => ticked a ++ " or " ++ ticked b
  | names => "one of " ++ ", ".intercalate (names.map ticked)

/-- The explanation of a `DecodeError`, if there is one. -/
def message? : DecodeError → Option String
  | .malformed => none
  | .invalidType found expected => some ("invalid type: " ++ found ++ ", expected " ++ expected)
  | .invalidValue found expected => some ("invalid value: " ++ found ++ ", expected " ++ expected)
  | .invalidLength found expected =>
    some ("invalid length " ++ toString found ++ ", expected " ++ expected)
  | .unknownVariant found expected =>
    some ("unknown variant " ++ ticked found ++ ", expected " ++ oneOf expected)
  | .missingField name => some ("missing field " ++ ticked name)
  | .duplicateField name => some ("duplicate field " ++ ticked name)
  | .noSuchCharacter => some "invalid value, expected unicode hexadecimal value"

/-- A node is met where something else, by the name `expected`, should be. -/
def unexpected (expected : String) : Node → DecodeError
  | .cut => .malformed
  | .unreadable => .malformed
  | n => .invalidType n.describe expected

end DecodeError

/-- `Medium`: how a decoder comes by its nodes, which it depends on for some of its errors. -/
inductive Medium where
  /-- JSON text, read as it is decoded. -/
  | json
  /-- JSON values that were set aside and are looked at again. -/
  | buffered
  /-- The tables of a TOML document. -/
  | toml
deriving DecidableEq, Repr

/-- A way to write the values of `α`, `encode`, and to read them back, `decode`. -/
structure Codec (α : Type) where
  encode : α → Json
  decode : Medium → Node → Except DecodeError α

namespace Codec

variable {α : Type}

/-- `Codec.string`: the codec of strings. -/
def string : Codec String where
  encode := .string
  decode
    | _, .string s => .ok s
    | _, n => .error (.unexpected "a string" n)

/-- `Codec.bool`: the codec of booleans. -/
def bool : Codec Bool where
  encode := .bool
  decode
    | _, .bool b => .ok b
    | _, n => .error (.unexpected "a boolean" n)

/-- Decodes nodes by `c` from left to right, up to the first error. -/
def decodeAll (c : Codec α) (m : Medium) : List Node → Except DecodeError (List α)
  | [] => .ok []
  | n :: rest =>
    match c.decode m n with
    | .error e => .error e
    | .ok a =>
      match decodeAll c m rest with
      | .error e => .error e
      | .ok l => .ok (a :: l)

/-- Lists of what `c` is the codec of, as arrays. -/
def list (c : Codec α) : Codec (List α) where
  encode l := .array (l.map c.encode)
  decode
    | m, .array items => c.decodeAll m items
    | _, n => .error (.unexpected "a sequence" n)

/-- Sets of what `c` is the codec of, as arrays; they are written in order and read in any order,
with repetitions. -/
def set [Ord α] [Std.TransOrd α] [Std.LawfulEqOrd α] (c : Codec α) : Codec (OrderedSet α) where
  encode s := c.list.encode s.toList
  decode m n := (c.list.decode m n).map .ofList

/-- Optional values of `c`; `null` is the absent one. -/
def optional (c : Codec α) : Codec (Option α) where
  encode
    | none => .null
    | some a => c.encode a
  decode
    | _, .null => .ok none
    | m, n => (c.decode m n).map some

/-- Looks `name` up among the `variants` of an enumeration. -/
def variantOf (variants : List (String × α)) (name : String) : Except DecodeError α :=
  match variants.lookup name with
  | some a => .ok a
  | none => .error (.unknownVariant name (variants.map (·.1)))

/-- Reads a variant that is written as an object: its name with nothing, that is `null`, as
value. -/
def decodeVariantObject (variants : List (String × α)) :
    Medium → List (Node × Node) → Except DecodeError α
  | .json, (.string name, n) :: rest => do
    let a ← variantOf variants name
    match n, rest with
    | .null, [] => .ok a
    | .null, _ => .error .malformed
    | n, _ => .error (.unexpected "unit" n)
  | .json, _ => .error .malformed
  | .buffered, [(.string name, n)] => do
    let a ← variantOf variants name
    match n with
    | .null | .object [] => .ok a
    | n => .error (.unexpected "unit" n)
  | .buffered, _ => .error (.invalidValue "map" "map with a single key")
  | .toml, [(.string name, n)] => do
    let a ← variantOf variants name
    match n with
    | .array [] | .object [] => .ok a
    | _ => .error .malformed
  | .toml, _ => .error .malformed

/-- Enumerations without payload, by the names of their `variants`. -/
def enumeration (variants : List (String × α)) (name : α → String) : Codec α where
  encode a := .string (name a)
  decode
    | _, .string s => variantOf variants s
    | m, .object members => decodeVariantObject variants m members
    | .buffered, n => .error (.unexpected "string or map" n)
    | _, _ => .error .malformed

end Codec

end AccessorSchema
