import AccessorSchema.Decimal.FloatText

/-!
# JSON numbers

**`NumberParts.read?`** cuts a number off the start of a text. A number without decimals and exponent
that fits into 64 bits is an integer, **`NumberParts.integer?`**, and everything else is a
floating-point number, **`NumberParts.float?`**.

A floating-point number is made of its leading digits, as many as fit into 64 bits, which are then
multiplied or divided by a power of ten; both steps round to double precision. A number too large
for that is well formed but has no value.
-/

namespace AccessorSchema

/-- The value of a list of decimal `digits`. -/
def digitsValue (digits : List Char) : Nat :=
  digits.foldl (fun n c => 10 * n + (c.toNat - '0'.toNat)) 0

/-- A number as it is written: `whole` digits, `decimals` and `exponent`. -/
structure NumberParts where
  negative : Bool
  whole : List Char
  decimals : Option (List Char)
  /-- The exponent's sign and digits; the sign is `true` for a minus. -/
  exponent : Option (Bool × List Char)
deriving Repr

namespace NumberParts

/-- Appends digits to the number `value` as long as it stays below `2^64`; with the number of digits
used. -/
def keepDigits (value : Nat) : List Char → Nat × Nat
  | [] => (value, 0)
  | c :: rest =>
    let next := 10 * value + (c.toNat - '0'.toNat)
    if next < powerOfTwo 64 then
      let (v, used) := keepDigits next rest
      (v, used + 1)
    else (value, 0)

/-- `10^n` in double precision. -/
def tenTo (n : Nat) : Float := Float.ofScientific 1 false n

/-- Divides `x` by `10^n`, in steps that double precision can hold. -/
def divideByTenTo (x : Float) (n : Nat) : Float :=
  if n ≤ 308 then x / tenTo n
  else if x == 0 then x
  else divideByTenTo (x / tenTo 308) (n - 308)
termination_by n

/-- Multiplies `x` by `10^n`; `none` if that is out of range. -/
def multiplyByTenTo (x : Float) (n : Nat) : Option Float :=
  if n ≤ 308 then
    let y := x * tenTo n
    if y.isInf then none else some y
  else if x == 0 then some x
  else none

/-- The value of the number `p`, which is not an integer; `none` if it is out of range. -/
def float? (p : NumberParts) : Option Float := do
  let (whole, wholeUsed) := keepDigits 0 p.whole
  let (significand, decimalsUsed) := keepDigits whole (p.decimals.getD [])
  let shift : Int := (p.whole.length - wholeUsed : Nat) - decimalsUsed
  let given : Int := match p.exponent with
    | none => 0
    | some (minus, digits) => if minus then -digitsValue digits else digitsValue digits
  let exponent := shift + given
  let x := significand.toUInt64.toFloat
  let y ← if 0 ≤ exponent then multiplyByTenTo x exponent.toNat
    else some (divideByTenTo x (-exponent).toNat)
  return if p.negative then -y else y

/-- The value of the number `p` if it is an integer. A zero with a minus is not: it keeps its
sign. -/
def integer? (p : NumberParts) : Option Int :=
  let n := digitsValue p.whole
  let fits := if p.negative then 0 < n && n ≤ powerOfTwo 63 else n < powerOfTwo 64
  if p.decimals.isNone && p.exponent.isNone && fits then some (if p.negative then -n else n)
  else none

/-- Cuts off the digits at the start of `text`; there has to be one. -/
def readDigits? (text : List Char) : Option (List Char × List Char) :=
  let digits := text.takeWhile Char.isDigit
  if digits.isEmpty then none else some (digits, text.dropWhile Char.isDigit)

/-- `readExponent?`: cuts the exponent off the start of a text, if one starts there. -/
def readExponent? : List Char → Option (Option (Bool × List Char) × List Char)
  | e :: rest =>
    if e == 'e' || e == 'E' then
      let (minus, rest) := match rest with
        | '+' :: r => (false, r)
        | '-' :: r => (true, r)
        | r => (false, r)
      (readDigits? rest).map fun (digits, rest) => (some (minus, digits), rest)
    else some (none, e :: rest)
  | [] => some (none, [])

/-- `readDecimals?`: cuts the decimals off the start of a text, if a point starts there. -/
def readDecimals? : List Char → Option (Option (List Char) × List Char)
  | '.' :: rest => (readDigits? rest).map fun (digits, rest) => (some digits, rest)
  | text => some (none, text)

/-- Cuts a number off the start of `text`. A whole part of several digits does not start with
zero. -/
def read? (text : List Char) : Option (NumberParts × List Char) := do
  let (negative, text) := match text with
    | '-' :: r => (true, r)
    | r => (false, r)
  let (whole, text) ← readDigits? text
  if 1 < whole.length && whole.head? == some '0' then none
  else
    let (decimals, text) ← readDecimals? text
    let (exponent, text) ← readExponent? text
    return ({ negative, whole, decimals, exponent }, text)

end NumberParts

end AccessorSchema
