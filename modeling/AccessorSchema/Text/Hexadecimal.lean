/-!
# Numbers to base sixteen

Reading and writing numbers with the digits `0` to `9` and `a` to `f`.
-/

namespace AccessorSchema

/-- The value of `c` as a digit to base sixteen, of either case. -/
def hexValue? (c : Char) : Option Nat :=
  if c.isDigit then some (c.toNat - '0'.toNat)
  else if 'a' ≤ c && c ≤ 'f' then some (c.toNat - 'a'.toNat + 10)
  else if 'A' ≤ c && c ≤ 'F' then some (c.toNat - 'A'.toNat + 10)
  else none

/-- The value of `digits` to base sixteen, the highest first. -/
def hexNumber? (digits : List Char) : Option Nat :=
  digits.foldlM (fun n c => (hexValue? c).map (16 * n + ·)) 0

/-- The digits of `n` to base sixteen, in lower case. -/
def hexDigits (n : Nat) : String := String.ofList (Nat.toDigits 16 n)

/-- `n`, below 65536, as four digits to base sixteen. -/
def fourHexDigits (n : Nat) : List Char :=
  [n / 4096, n / 256 % 16, n / 16 % 16, n % 16].map Nat.digitChar

end AccessorSchema
