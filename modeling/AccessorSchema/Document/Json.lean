import AccessorSchema.Text.Hexadecimal

/-!
# JSON values and their texts

**`Json`** is what this library writes: null, booleans, strings, arrays and objects with their
members in a given order. No document it writes holds a number.

* **`Json.compact`** — the text without any blanks;
* **`Json.pretty`** — one element per line, indented by two blanks per level.

A string is written with a backslash before quotes and backslashes, control characters by name or
code point, and every other character as it is.
-/

namespace AccessorSchema

/-- A JSON value without numbers; an `object` lists its members in order. -/
inductive Json where
  | null
  | bool (b : Bool)
  | string (s : String)
  | array (items : List Json)
  | object (members : List (String × Json))
deriving Repr, Inhabited

namespace Json

/-- The character `c` as it is written between the quotes of a string. -/
def escapeChar (c : Char) : List Char :=
  match c with
  | '"' => ['\\', '"']
  | '\\' => ['\\', '\\']
  | '\x08' => ['\\', 'b']
  | '\x0c' => ['\\', 'f']
  | '\n' => ['\\', 'n']
  | '\r' => ['\\', 'r']
  | '\t' => ['\\', 't']
  | _ => if c.toNat < 0x20 then '\\' :: 'u' :: fourHexDigits c.toNat else [c]

/-- The string `s` with its quotes, by `escapeChar`. -/
def stringText (s : String) : String :=
  String.ofList ('"' :: s.toList.flatMap escapeChar ++ ['"'])

/-- The boolean `b` as it is written. -/
def boolText (b : Bool) : String := if b then "true" else "false"

/-- The texts of `l` with separators between them. -/
def joined (l : List String) : String := ",".intercalate l

mutual

/-- `compact`: the text of a value without blanks between its parts. -/
def compact : Json → String
  | .null => "null"
  | .bool b => boolText b
  | .string s => stringText s
  | .array items => "[" ++ joined (compactItems items) ++ "]"
  | .object members => "\x7b" ++ joined (compactMembers members) ++ "\x7d"

/-- The texts of the items of an array, each `compact`. -/
def compactItems : List Json → List String
  | [] => []
  | v :: rest => compact v :: compactItems rest

/-- The texts of the members of an object, each `compact`. -/
def compactMembers : List (String × Json) → List String
  | [] => []
  | (k, v) :: rest => (stringText k ++ ":" ++ compact v) :: compactMembers rest

end

/-- Puts a bracketed list of `lines` on lines of its own; an empty list stays on the line. -/
def block (openBracket closeBracket outer inner : String) (lines : List String) : String :=
  match lines with
  | [] => openBracket ++ closeBracket
  | _ =>
    openBracket ++ "\n" ++ inner ++ (",\n" ++ inner).intercalate lines ++ "\n" ++ outer ++
      closeBracket

mutual

/-- The text of a value over several lines; `margin` stands before each further line. -/
def prettyFrom (margin : String) : Json → String
  | .null => "null"
  | .bool b => boolText b
  | .string s => stringText s
  | .array items => block "[" "]" margin (margin ++ "  ") (prettyItems (margin ++ "  ") items)
  | .object members =>
    block "\x7b" "\x7d" margin (margin ++ "  ") (prettyMembers (margin ++ "  ") members)

/-- The texts of the items of an array, by `prettyFrom margin`. -/
def prettyItems (margin : String) : List Json → List String
  | [] => []
  | v :: rest => prettyFrom margin v :: prettyItems margin rest

/-- The texts of the members of an object, by `prettyFrom margin`. -/
def prettyMembers (margin : String) : List (String × Json) → List String
  | [] => []
  | (k, v) :: rest => (stringText k ++ ": " ++ prettyFrom margin v) :: prettyMembers margin rest

end

/-- The text of `v` over several lines. -/
def pretty (v : Json) : String := prettyFrom "" v

end Json

end AccessorSchema
