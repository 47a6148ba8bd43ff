import AccessorSchema.Document.Record

/-!
# Values that name their variant

A value may say by one of its own members, the **tag**, which variant of a type it is; in an array
the tag is the first item. The other members are set aside until the tag is known and are then read
as buffered values, so everything in them has to be readable, and not nested too deeply, whatever
the variant turns out to be.

* **`splitTag`** — the variant and what is left of the node.
-/

namespace AccessorSchema

/-- How many arrays and objects may lie inside each other within a document's outermost one. -/
def nestingLimit : Nat := 126

variable {β : Type}

/-- The variant that a tag names, among `variants`. -/
def tagVariant (variants : List (String × β)) : Node → Except DecodeError β
  | .string name => Codec.variantOf variants name
  | n => .error (.unexpected "variant identifier" n)

/-- Goes through members from left to right for the `tag` and sets the others aside. -/
def splitTagMembers (tag : String) (variants : List (String × β)) :
    Option β → List (Node × Node) → Except DecodeError (β × List (Node × Node))
  | some b, [] => .ok (b, [])
  | none, [] => .error (.missingField tag)
  | met, (.string key, n) :: rest =>
    if key = tag then
      match met with
      | some _ => .error (.duplicateField tag)
      | none => do
        let b ← tagVariant variants n
        splitTagMembers tag variants (some b) rest
    else if n.fits nestingLimit then do
      let (b, others) ← splitTagMembers tag variants met rest
      return (b, (.string key, n) :: others)
    else .error .malformed
  | _, _ :: _ => .error .malformed

/-- The variant of a node that messages call `title`, and the node without its tag. -/
def splitTag (title tag : String) (variants : List (String × β)) :
    Node → Except DecodeError (β × Node)
  | .object members => do
    let (b, others) ← splitTagMembers tag variants none members
    return (b, .object others)
  | .array [] => .error (.missingField tag)
  | .array (n :: items) => do
    let b ← tagVariant variants n
    if Node.allFit nestingLimit items then return (b, .array items) else .error .malformed
  | n => .error (.unexpected title n)

end AccessorSchema
