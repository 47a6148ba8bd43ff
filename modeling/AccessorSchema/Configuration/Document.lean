import AccessorSchema.Configuration.Codec
import AccessorSchema.Document.Toml.Reader
import AccessorSchema.Failure

/-!
# Configuration files

* **`Configuration.ofToml`** — reads a configuration file;
* **`Configuration.toml`** — writes one; a list of several names has one name per line.
-/

namespace AccessorSchema

namespace Configuration

/-- What is wrong with a file that is no configuration, by the error `e` of reading it. -/
def unparsable (e : DecodeError) : Failure :=
  .configuration ("Failed to parse " ++ fileName) (some e)

/-- Reads a configuration from `text` and checks it by `problem?`. -/
def ofToml (text : String) : Except Failure Configuration := do
  let c ← (codec.readToml text).mapError unparsable
  match c.problem? with
  | none => return c
  | some problem => throw (.configuration problem none)

/-- A list of names as a TOML array. -/
def tomlNames : List String → String
  | [] => "[]"
  | [name] => "[" ++ Json.stringText name ++ "]"
  | names => "[\n" ++ String.join (names.map fun n => "    " ++ Json.stringText n ++ ",\n") ++ "]"

/-- The text of a configuration file for `c`, which `ofToml` reads. -/
def toml (c : Configuration) : String :=
  "[types]\n" ++
  "boolean = " ++ tomlNames c.types.boolean.toList ++ "\n" ++
  "void = " ++ Json.stringText c.types.void ++ "\n" ++
  "scalars = " ++ tomlNames c.types.scalars.toList ++ "\n" ++
  "\n" ++
  "[diagnostics]\n" ++
  "fail_on = " ++ Json.stringText c.failOn.text ++ "\n"

end Configuration

end AccessorSchema
