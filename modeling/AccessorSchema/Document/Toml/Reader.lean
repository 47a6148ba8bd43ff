import AccessorSchema.Document.Toml.Layout
import AccessorSchema.Document.Toml.Quoted
import AccessorSchema.Document.Toml.Scalar
import AccessorSchema.Document.Toml.Table

/-!
# Reading TOML text

**`TomlReader.read`** turns a text into the table it describes; unlike JSON a TOML document is read as
a whole before anything is decoded. First the layout of the whole text has to be in order. Then its
keys and values are read from left to right, and the first one that has no meaning, or does not fit
to those before it, is the error.

* **`TomlReader.readForm`** — a value;
* **`TomlReader.readEntries`** — the entries of a table, which are added to what it has already;
* **`Codec.readToml`** — reads a text as a value of some type.
-/

namespace AccessorSchema

namespace TomlReader

/-- How many parts a key may have. -/
def keyLimit : Nat := 80

/-- Whether the word `text` can stand as a key without quotes. -/
def isBareKey (text : List Char) : Bool :=
  !text.isEmpty && text.all fun c => c.isAlphanum || c == '_' || c == '-'

/-- The name that a part of a key gives. -/
def readPart : TomlPiece → Except DecodeError String
  | .bare text => if isBareKey text then .ok (String.ofList text) else .error .malformed
  | .quoted q body => if q.severalLines then .error .malformed else q.read body

/-- The names that `key` consists of, at most `keyLimit` of them. -/
def readKey (key : TomlKey) : Except DecodeError (List String) := do
  let parts ← key.mapM readPart
  if parts.length ≤ keyLimit then return parts else throw .malformed

/-- The value of a scalar. -/
def readPiece : TomlPiece → Except DecodeError Node
  | .bare text =>
    match TomlScalar.read? text with
    | some n => .ok n
    | none => .error .malformed
  | .quoted q body => do return .string (← q.read body)

mutual

/-- The value that is written in some form. -/
def readForm : TomlForm → Except DecodeError Node
  | .piece p => readPiece p
  | .array items => do return .array (← readItems items)
  | .table entries => do return (TomlItem.table .header (← readEntries [] entries)).toNode

/-- The items of an array. -/
def readItems : List TomlForm → Except DecodeError (List Node)
  | [] => .ok []
  | form :: rest => do
    let n ← readForm form
    return n :: (← readItems rest)

/-- `table` with further entries, one after another by `TomlItem.addEntry`. -/
def readEntries (table : TomlEntries) : List (TomlKey × TomlForm) → Except DecodeError TomlEntries
  | [] => .ok table
  | (key, form) :: rest => do
    let key ← readKey key
    let n ← readForm form
    readEntries (← TomlItem.addEntry table key n) rest

end

/-- `document` with the further section `s`. -/
def readSection (document : TomlEntries) (s : TomlSection) : Except DecodeError TomlEntries := do
  let header ← readKey s.header
  if s.element then
    TomlItem.addElement document header (← readEntries [] s.entries)
  else TomlItem.addTable document header (readEntries · s.entries)

/-- The document that sections make up, by `readSection`; the first of them has no header. -/
def readSections : List TomlSection → Except DecodeError TomlEntries
  | [] => .ok []
  | root :: rest => do rest.foldlM readSection (← readEntries [] root.entries)

/-- The table that `text` describes. -/
def read (text : String) : Except DecodeError Node :=
  match TomlLayout.sections? text with
  | none => .error .malformed
  | some sections => do return (TomlItem.table .header (← readSections sections)).toNode

end TomlReader

/-- Reads the TOML `text` as a value of the codec `c`. -/
def Codec.readToml {α : Type} (c : Codec α) (text : String) : Except DecodeError α := do
  c.decode .toml (← TomlReader.read text)

end AccessorSchema
