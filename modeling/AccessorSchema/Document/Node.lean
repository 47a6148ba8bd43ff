import AccessorSchema.Decimal.Power
import AccessorSchema.Document.Json
import AccessorSchema.Text.Quoted

/-!
# Documents as they are met by a reader

A decoder goes through a document from left to right and stops at the first thing it cannot use,
which may come before or after the place where the text itself goes wrong. A **`Node`** therefore
keeps whatever of a text could be read, and marks with **`cut`** the place where it stops being a
document. The members of an object keep their order and their repetitions.

* **`Node.describe`** — what messages call a node;
* **`Node.isWhole`** — no cut anywhere in it, so it can be passed over;
* **`Node.fits`** — every value in it can be read and it is not nested too deeply, so it can be
  set aside.
-/

namespace AccessorSchema

/-- `Node`: a part of a document, as a reader meets it. -/
inductive Node where
  /-- The text stops being a document here. -/
  | cut
  /-- A well-formed piece of text that stands for no value, such as a number out of range. -/
  | unreadable
  | null
  | bool (b : Bool)
  | integer (n : Int)
  /-- A floating-point number, of which only the text messages show is kept: no document has a
  numeric field. -/
  | float (shown : String)
  /-- A date or a time. -/
  | moment
  | string (s : String)
  | array (items : List Node)
  | object (members : List (Node × Node))
deriving Repr, Inhabited

namespace Node

/-- What messages call the integer `n`: beyond 64 bits they add which type of 128 bits holds it. -/
def describeInteger (n : Int) : String :=
  let shown := "integer `" ++ toString n ++ "`"
  if -(powerOfTwo 63 : Int) ≤ n && n < powerOfTwo 64 then shown
  else if n < powerOfTwo 127 then shown ++ " as i128"
  else shown ++ " as u128"

/-- `describe`: what messages call a node. -/
def describe : Node → String
  | .cut => "nothing"
  | .unreadable => "nothing"
  | .null => "null"
  | .bool b => "boolean `" ++ Json.boolText b ++ "`"
  | .integer n => describeInteger n
  | .float shown => "floating point `" ++ shown ++ "`"
  | .moment => "map"
  | .string s => "string " ++ quoted s
  | .array _ => "sequence"
  | .object _ => "map"

mutual

/-- Whether the text goes on being a document throughout the node: no part of it is `cut`. -/
def isWhole : Node → Bool
  | .cut => false
  | .array items => allWhole items
  | .object members => membersWhole members
  | _ => true

/-- Whether every node of a list `isWhole`. -/
def allWhole : List Node → Bool
  | [] => true
  | n :: rest => isWhole n && allWhole rest

/-- `membersWhole`: whether the members of an object are whole. Their names have to be strings that
can be read. -/
def membersWhole : List (Node × Node) → Bool
  | [] => true
  | (k, n) :: rest => (match k with | .string _ | .unreadable => true | _ => false) &&
      isWhole n && membersWhole rest

end

mutual

/-- Whether everything in the node can be read with at most `depth` arrays and objects inside each
other. -/
def fits (depth : Nat) : Node → Bool
  | .cut => false
  | .unreadable => false
  | .array items => match depth with
    | 0 => false
    | d + 1 => allFit d items
  | .object members => match depth with
    | 0 => false
    | d + 1 => membersFit d members
  | _ => true

/-- Whether every node of a list `fits depth`. -/
def allFit (depth : Nat) : List Node → Bool
  | [] => true
  | n :: rest => fits depth n && allFit depth rest

/-- Whether every member of an object `fits depth`; their names have to be strings. -/
def membersFit (depth : Nat) : List (Node × Node) → Bool
  | [] => true
  | (k, n) :: rest => (match k with | .string _ => true | _ => false) &&
      fits depth n && membersFit depth rest

end

mutual

/-- A JSON value as a reader meets it: nothing of it is `cut` or `unreadable`. -/
def ofJson : Json → Node
  | .null => .null
  | .bool b => .bool b
  | .string s => .string s
  | .array items => .array (ofItems items)
  | .object members => .object (ofMembers members)

/-- The items of an array as a reader meets them, by `ofJson`. -/
def ofItems : List Json → List Node
  | [] => []
  | v :: rest => ofJson v :: ofItems rest

/-- The members of an object as a reader meets them, by `ofJson`. -/
def ofMembers : List (String × Json) → List (Node × Node)
  | [] => []
  | (k, v) :: rest => (.string k, ofJson v) :: ofMembers rest

end

end Node

end AccessorSchema
