import AccessorSchema.Document.Codec
import AccessorSchema.Document.Json.Token

/-!
# Reading JSON text

**`JsonReader.read`** turns a text into a `Node`, with a mark where it stops being JSON, and says
whether anything follows. The reader is a machine that takes one token at a time: the arrays and
objects that wait for a value lie on a stack, the innermost one on top.

* **`JsonReader.step`** — one token;
* `JsonReader.abandon` — closes everything that is open around the place where the text breaks off;
* **`Codec.readJson`** — reads a text as a value of some type.
-/

namespace AccessorSchema

/-- An array or object that waits for a value, with what has been read of it backwards. -/
inductive OpenNode where
  | array (items : List Node)
  /-- An object whose last member has the name `key` and no value yet. -/
  | object (members : List (Node × Node)) (key : Node)
deriving Repr, Inhabited

/-- `JsonExpectation`: what the next token has to be, with what has been read so far of the
innermost value. -/
inductive JsonExpectation where
  /-- A value; right after an opening bracket also the closing one. -/
  | value (first : Bool)
  /-- A comma or the end of an array. -/
  | nextItem (items : List Node)
  /-- The name of a member; right after an opening brace also the closing one. -/
  | key (members : List (Node × Node)) (first : Bool)
  /-- The colon after the name of a member. -/
  | colon (members : List (Node × Node)) (key : Node)
  /-- A comma or the end of an object. -/
  | nextMember (members : List (Node × Node))
  /-- Nothing: the document is complete. -/
  | nothing (root : Node)
  /-- Anything: the text has gone wrong before. -/
  | anything (root : Node)
deriving Repr, Inhabited

/-- The state of the machine that `step` moves: the open nodes on a `stack`, and what it
`expects`. -/
structure JsonReader where
  stack : List OpenNode := []
  expects : JsonExpectation := .value false
  /-- Whether a token has come after the end of the document. -/
  trailing : Bool := false
deriving Repr, Inhabited

/-- A document as far as it could be read: its `root` is cut where the text goes wrong. -/
structure JsonDocument where
  root : Node
  /-- Whether more text follows. -/
  trailing : Bool
deriving Repr

/-- What is open is closed around the unfinished part `inner`. -/
def OpenNode.closeAround (inner : Node) : OpenNode → Node
  | .array items => .array (inner :: items).reverse
  | .object members key => .object ((key, inner) :: members).reverse

namespace JsonReader

/-- Closes everything on the `stack` around the place `inner` where the text breaks off. -/
def wrap (stack : List OpenNode) (inner : Node) : Node := stack.foldl OpenNode.closeAround inner

/-- An object in which the text breaks off after some `members`, with the name `key` or before
it. -/
def brokenObject (members : List (Node × Node)) (key : Node) : Node :=
  .object ((key, .cut) :: members).reverse

/-- What has been read if the text breaks off in the state `r`. -/
def abandon (r : JsonReader) : Node :=
  match r.expects with
  | .value _ => wrap r.stack .cut
  | .nextItem items => wrap r.stack (.array (.cut :: items).reverse)
  | .key members _ => wrap r.stack (brokenObject members .cut)
  | .colon members key => wrap r.stack (brokenObject members key)
  | .nextMember members => wrap r.stack (brokenObject members .cut)
  | .nothing root => root
  | .anything root => root

/-- The state after the text has gone wrong in the state `r`: nothing more is taken. -/
def fail (r : JsonReader) : JsonReader := { expects := .anything r.abandon }

/-- The state after the complete value `n`, which goes to the innermost node of the `stack`. -/
def finish (stack : List OpenNode) (n : Node) : JsonReader :=
  match stack with
  | [] => { expects := .nothing n }
  | .array items :: rest => { stack := rest, expects := .nextItem (n :: items) }
  | .object members key :: rest => { stack := rest, expects := .nextMember ((key, n) :: members) }

/-- The node of a string; `.unreadable` if it has no characters. -/
def stringNode : Option (List Char) → Node
  | some chars => .string (String.ofList chars)
  | none => .unreadable

/-- Takes the token `t` in the state `r`. -/
def step (r : JsonReader) (t : JsonToken) : JsonReader :=
  match r.expects, t with
  | .anything _, _ => r
  | .nothing _, _ => { r with trailing := true }
  | .value _, .text chars => finish r.stack (stringNode chars)
  | .value _, .scalar n => finish r.stack n
  | .value _, .openArray => { stack := .array [] :: r.stack, expects := .value true }
  | .value _, .openObject => { stack := r.stack, expects := .key [] true }
  | .value true, .closeArray =>
    match r.stack with
    | .array [] :: rest => finish rest (.array [])
    | _ => r.fail
  | .nextItem items, .comma => { stack := .array items :: r.stack, expects := .value false }
  | .nextItem items, .closeArray => finish r.stack (.array items.reverse)
  | .key members _, .text chars => { stack := r.stack, expects := .colon members (stringNode chars) }
  | .key [] true, .closeObject => finish r.stack (.object [])
  | .colon members key, .colon =>
    { stack := .object members key :: r.stack, expects := .value false }
  | .nextMember members, .comma => { stack := r.stack, expects := .key members false }
  | .nextMember members, .closeObject => finish r.stack (.object members.reverse)
  | _, _ => r.fail

/-- The document in `text`, by `step` for one token after another. -/
def read (text : String) : JsonDocument :=
  let r := (JsonToken.scan text).foldl step {}
  { root := r.abandon, trailing := r.trailing }

end JsonReader

/-- Reads `text` as a value of the codec `c`; nothing may follow it. -/
def Codec.readJson {α : Type} (c : Codec α) (text : String) : Except DecodeError α := do
  let document := JsonReader.read text
  let a ← c.decode .json document.root
  if document.trailing then .error .malformed else .ok a

end AccessorSchema
