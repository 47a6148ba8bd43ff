import AccessorSchema.Document.Json.Number
import AccessorSchema.Document.Node

/-!
# The tokens of JSON text

**`JsonToken.scan`** cuts a text into punctuation, strings and other scalars. It always succeeds:
where the text cannot be JSON it puts the token `bad`.

* **`ofQuoted`** — the string between two quotes; an unpaired surrogate leaves it well formed but
  without a value;
* `wordTokens` — numbers, `null`, `true` and `false`.
-/

namespace AccessorSchema

/-- `JsonToken`: a piece of JSON text, that is punctuation, a string, or a word. -/
inductive JsonToken where
  | openArray
  | closeArray
  | openObject
  | closeObject
  | comma
  | colon
  /-- A string; `none` if half of a surrogate pair in it has no partner. -/
  | text (chars : Option (List Char))
  /-- A number, `null`, `true` or `false`. -/
  | scalar (value : Node)
  /-- The text is no longer JSON. -/
  | bad
deriving Repr, Inhabited

namespace JsonToken

/-- `escaped?`: the character of a one-letter escape. -/
def escaped? : Char → Option Char
  | '"' => some '"'
  | '\\' => some '\\'
  | '/' => some '/'
  | 'b' => some '\x08'
  | 'f' => some '\x0c'
  | 'n' => some '\n'
  | 'r' => some '\r'
  | 't' => some '\t'
  | _ => none

/-- A piece of a string: a character, or the `high` or `low` half of a surrogate pair. -/
inductive Unit16 where
  | char (c : Char)
  | high (n : Nat)
  | low (n : Nat)
deriving DecidableEq, Repr

/-- The code unit with the number `n`. -/
def Unit16.ofNat (n : Nat) : Unit16 :=
  if 0xD800 ≤ n ∧ n < 0xDC00 then .high n
  else if 0xDC00 ≤ n ∧ n < 0xE000 then .low n
  else .char (Char.ofNat n)

/-- The pieces of the text between the quotes of a string; `none` if it is ill formed. -/
def stringUnits? : List Char → Option (List Unit16)
  | [] => some []
  | '\\' :: 'u' :: a :: b :: c :: d :: rest => do
    let n ← hexNumber? [a, b, c, d]
    return .ofNat n :: (← stringUnits? rest)
  | '\\' :: e :: rest => do
    let c ← escaped? e
    return .char c :: (← stringUnits? rest)
  | c :: rest =>
    if c == '\\' || c.toNat < 0x20 then none
    else (stringUnits? rest).map (.char c :: ·)

/-- Joins surrogate pairs; `none` if a half has no partner. -/
def joinSurrogates? : List Unit16 → Option (List Char)
  | [] => some []
  | .char c :: rest => (joinSurrogates? rest).map (c :: ·)
  | .high h :: .low l :: rest =>
    (joinSurrogates? rest).map
      (Char.ofNat (0x10000 + (h - 0xD800) * 0x400 + (l - 0xDC00)) :: ·)
  | _ :: _ => none

/-- The token of a string with a given `text` between its quotes. -/
def ofQuoted (text : List Char) : JsonToken :=
  match stringUnits? text with
  | none => .bad
  | some units => .text (joinSurrogates? units)

/-- `afterWord`: what follows a word that has been read, nothing or something that does not belong
there. -/
def afterWord : List Char → List JsonToken
  | [] => []
  | _ => [.bad]

/-- The value of the number `p`, by `integer?` or else by `float?`. -/
def ofNumber (p : NumberParts) : Node :=
  match p.integer? with
  | some n => .integer n
  | none => (p.float?.map fun x => Node.float (FloatLayout.json.text x)).getD .unreadable

/-- The tokens of a `text` without blanks, quotes and punctuation. -/
def wordTokens (text : List Char) : List JsonToken :=
  match text with
  | 'n' :: 'u' :: 'l' :: 'l' :: rest => .scalar .null :: afterWord rest
  | 't' :: 'r' :: 'u' :: 'e' :: rest => .scalar (.bool true) :: afterWord rest
  | 'f' :: 'a' :: 'l' :: 's' :: 'e' :: rest => .scalar (.bool false) :: afterWord rest
  | _ =>
    match NumberParts.read? text with
    | none => [.bad]
    | some (parts, rest) => .scalar (ofNumber parts) :: afterWord rest

/-- `punctuation?`: the token of a punctuation character. -/
def punctuation? : Char → Option JsonToken
  | '[' => some .openArray
  | ']' => some .closeArray
  | '{' => some .openObject
  | '}' => some .closeObject
  | ',' => some .comma
  | ':' => some .colon
  | _ => none

/-- `isBlank`: the blanks between tokens are space, tab, and line ends. -/
def isBlank (c : Char) : Bool := c == ' ' || c == '\t' || c == '\n' || c == '\r'

/-- Where the scanner is: `between` tokens, or within one. -/
inductive Place where
  | between
  /-- In a word, of which the characters so far are given backwards. -/
  | word (read : List Char)
  /-- Between quotes. -/
  | quotes (read : List Char)
  /-- After a backslash between quotes. -/
  | escape (read : List Char)
deriving Repr

/-- The tokens from some `Place` on. -/
def scanFrom : Place → List Char → List JsonToken
  | .between, [] => []
  | .word read, [] => wordTokens read.reverse
  | .quotes _, [] => [.bad]
  | .escape _, [] => [.bad]
  | .between, c :: rest =>
    if isBlank c then scanFrom .between rest
    else if c == '"' then scanFrom (.quotes []) rest
    else match punctuation? c with
      | some t => t :: scanFrom .between rest
      | none => scanFrom (.word [c]) rest
  | .word read, c :: rest =>
    if isBlank c then wordTokens read.reverse ++ scanFrom .between rest
    else if c == '"' then wordTokens read.reverse ++ scanFrom (.quotes []) rest
    else match punctuation? c with
      | some t => wordTokens read.reverse ++ t :: scanFrom .between rest
      | none => scanFrom (.word (c :: read)) rest
  | .quotes read, c :: rest =>
    if c == '"' then ofQuoted read.reverse :: scanFrom .between rest
    else if c == '\\' then scanFrom (.escape read) rest
    else scanFrom (.quotes (c :: read)) rest
  | .escape read, c :: rest => scanFrom (.quotes (c :: '\\' :: read)) rest

/-- The tokens of `text`. -/
def scan (text : String) : List JsonToken := scanFrom .between text.toList

end JsonToken

end AccessorSchema
