import AccessorSchema.Document.Codec
import AccessorSchema.Document.Toml.Token
import AccessorSchema.Text.Hexadecimal

/-!
# Quoted TOML text

**`TomlQuotes.read`** gives the text a string stands for. It is read from left to right, and the
first thing that has no meaning is the error.

* **`decodeBasic`** — text between double quotes, with its escapes;
* `decodeLiteral` — text between single quotes, which stands for itself.
-/

namespace AccessorSchema

namespace TomlQuotes

open TomlToken (isPlain isBlank)

/-- The character with the number `n`, unless that is the number of a surrogate or too large. -/
def charOf? (n : Nat) : Option Char :=
  if h : n.isValidChar then some (Char.ofNatAux n h) else none

/-- The character of a one-letter escape. -/
def escaped? : Char → Option Char
  | 'b' => some '\x08'
  | 't' => some '\t'
  | 'n' => some '\n'
  | 'f' => some '\x0c'
  | 'r' => some '\r'
  | 'e' => some '\x1b'
  | '"' => some '"'
  | '\\' => some '\\'
  | _ => none

/-- How many digits an escape by number has: `\x`, `\u`, `\U`. -/
def escapeLength? : Char → Option Nat
  | 'x' => some 2
  | 'u' => some 4
  | 'U' => some 8
  | _ => none

/-- The character that an escape with `length` digits stands for, with the rest of `text` not looked
at. -/
def numbered (length : Nat) (text : List Char) : Except DecodeError Char :=
  match hexNumber? (text.take length) with
  | none => .error .malformed
  | some n =>
    if text.length < length then .error .malformed
    else
      match charOf? n with
      | none => .error .noSuchCharacter
      | some c => .ok c

/-- Whether only blanks stand in `text` before the next line end. -/
def endsLine (text : List Char) : Bool :=
  match text.dropWhile isBlank with
  | '\n' :: _ => true
  | '\r' :: '\n' :: _ => true
  | _ => false

/-- Passes over blanks and line ends. -/
def dropSpace : List Char → List Char
  | [] => []
  | '\r' :: '\n' :: rest => dropSpace rest
  | c :: rest => if isBlank c || c == '\n' then dropSpace rest else c :: rest

/-- `dropSpace` leaves no more characters than there were. -/
theorem length_dropSpace_le (text : List Char) : (dropSpace text).length ≤ text.length := by
  fun_induction dropSpace text <;> grind

/-- Whether the character `c` may stand for itself in a string, given the `rest` after it. -/
def standsForItself (severalLines : Bool) (c : Char) (rest : List Char) : Bool :=
  isPlain c || (severalLines && (c == '\n' || (c == '\r' && rest.head? == some '\n')))

/-- The characters that a text between double quotes stands for. With `severalLines` a line end may
occur, and a backslash at the end of a line joins it to the next word. -/
def decodeBasic (severalLines : Bool) : List Char → Except DecodeError (List Char)
  | [] => .ok []
  | '\\' :: rest =>
    if severalLines && endsLine rest then decodeBasic severalLines (dropSpace rest)
    else
      match rest with
      | [] => .error .malformed
      | e :: rest =>
        match escaped? e, escapeLength? e with
        | some c, _ => do return c :: (← decodeBasic severalLines rest)
        | none, none => .error .malformed
        | none, some n => do
          let c ← numbered n rest
          return c :: (← decodeBasic severalLines (rest.drop n))
  | c :: rest =>
    if standsForItself severalLines c rest then do
      return c :: (← decodeBasic severalLines rest)
    else .error .malformed
termination_by text => text.length
decreasing_by all_goals grind [length_dropSpace_le]

/-- The characters that a text between single quotes stands for: themselves, if each
`standsForItself`. -/
def decodeLiteral (severalLines : Bool) : List Char → Except DecodeError (List Char)
  | [] => .ok []
  | c :: rest =>
    if standsForItself severalLines c rest then do
      return c :: (← decodeLiteral severalLines rest)
    else .error .malformed

/-- A text over several lines without a line end right after the opening quotes. -/
def withoutFirstLineEnd : List Char → List Char
  | '\n' :: rest => rest
  | '\r' :: '\n' :: rest => rest
  | text => text

/-- A string without its closing quotes, which `body` has to end with. -/
def withoutClosing? (q : TomlQuotes) (body : List Char) : Option (List Char) :=
  if q.closing.isSuffixOf body then some (body.take (body.length - q.closing.length)) else none

/-- The text of a string, given by its quotes `q` and the `body` that follows the opening ones. -/
def read (q : TomlQuotes) (body : List Char) : Except DecodeError String :=
  match q.withoutClosing? body with
  | none => .error .malformed
  | some text => do
    let text := if q.severalLines then withoutFirstLineEnd text else text
    let chars ← if q.basic then decodeBasic q.severalLines text
      else decodeLiteral q.severalLines text
    return String.ofList chars

end TomlQuotes

end AccessorSchema
