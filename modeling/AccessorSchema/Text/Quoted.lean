import AccessorSchema.Text.Hexadecimal
import AccessorSchema.Text.Visible

/-!
# Quoted text in messages

**`quoted s`** puts a text between double quotes so that everything in it can be seen: quotes and
backslashes are escaped, the common control characters have names, and any other character that is
not visible by itself is given by its code point.
-/

namespace AccessorSchema

/-- The character `c` as quoted text shows it. -/
def quotedChar (c : Char) : String :=
  match c with
  | '\x00' => "\\0"
  | '\t' => "\\t"
  | '\r' => "\\r"
  | '\n' => "\\n"
  | '"' => "\\\""
  | '\\' => "\\\\"
  | _ => if isVisible c then String.singleton c else "\\u\x7b" ++ hexDigits c.toNat ++ "\x7d"

/-- The text `s` between quotes, with everything in it escaped that is not visible (`isVisible`). -/
def quoted (s : String) : String := "\"" ++ String.join (s.toList.map quotedChar) ++ "\""

end AccessorSchema
