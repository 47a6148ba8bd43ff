import AccessorSchema.Decimal.FloatText
import AccessorSchema.Document.Node
import AccessorSchema.Document.Toml.Moment
import AccessorSchema.Text.Hexadecimal

/-!
# Unquoted TOML values

**`TomlScalar.read?`** reads booleans, integers, floating-point numbers, dates and times. Integers
may be given to base two, eight and sixteen, and digits may be grouped by single underscores.

Whether an integer really has a value is only found out when it is looked at. One that is out of
range, that has a base but no digits, or that has anything but digits after an underscore is well
formed, but nobody can read over it: it becomes a `Node.cut`. So does a floating-point number out
of range.

* `underscoresFit` — where underscores may stand;
* `decimalInteger?`, `basedInteger?`, `float?` — the three forms of numbers.
-/

namespace AccessorSchema.TomlScalar

/-- Whether `c` is a digit to `base`. -/
def isDigitTo (base : Nat) (c : Char) : Bool :=
  match hexValue? c with
  | some n => n < base
  | none => false

/-- The value of `digits` to `base`. -/
def valueOf (base : Nat) (digits : List Char) : Nat :=
  digits.foldl (fun n c => base * n + (hexValue? c).getD 0) 0

/-- The sign in front of a number. -/
inductive Sign where
  | absent
  | plus
  | minus
deriving DecidableEq, Repr

/-- Cuts a `Sign` off the start of a text. -/
def splitSign : List Char → Sign × List Char
  | '+' :: rest => (.plus, rest)
  | '-' :: rest => (.minus, rest)
  | text => (.absent, text)

/-- Whether every underscore has a digit after it and another one before it. The flag says whether
an underscore may come first, as it may after a sign. -/
def underscoresFit (isDigit : Char → Bool) : Bool → List Char → Bool
  | _, [] => true
  | may, '_' :: rest => may && rest.head?.any isDigit && underscoresFit isDigit false rest
  | _, c :: rest => underscoresFit isDigit (isDigit c) rest

/-- The node of the integer `n`, unless it takes more than 128 bits. -/
def ofInteger (n : Int) : Node :=
  if -(powerOfTwo 127 : Int) ≤ n && n < powerOfTwo 128 then .integer n else .cut

/-- The node of an integer by its `sign` and digits to `base`; underscores do not count. -/
def ofDigits (base : Nat) (sign : Sign) (text : List Char) : Node :=
  let digits := text.filter (· != '_')
  if digits.isEmpty || !digits.all (isDigitTo base) then .cut
  else
    let n : Int := valueOf base digits
    ofInteger (if sign = .minus then -n else n)

/-- Reads an integer to `base`, which was given in front of `text`. -/
def basedInteger? (base : Nat) (text : List Char) : Option Node :=
  if text.all (fun c => isDigitTo base c || c == '_') && underscoresFit (isDigitTo base) false text then
    some (ofDigits base .absent text)
  else none

/-- Reads an integer to base ten from `text`. Its first digits are known to be followed by an
underscore or by nothing; a zero in front of others is refused. Next to underscores all digits up to
`f` will do. -/
def decimalInteger? (sign : Sign) (text : List Char) : Option Node :=
  if text.head? == some '0' && text != ['0'] then none
  else if underscoresFit (isDigitTo 16) (decide (sign ≠ .absent)) text then
    some (ofDigits 10 sign text)
  else none

/-- The double-precision number nearest to `significand · 10^exponent`; `none` if it is out of
range. -/
def nearestFloat? (significand : Nat) (exponent : Int) : Option Float :=
  let leading := (Nat.toDigits 10 significand).length + exponent
  if significand == 0 || leading < -330 then some 0.0
  else if 310 < leading then none
  else
    let x := Float.ofScientific significand (exponent < 0) exponent.natAbs
    if x.isInf then none else some x

/-- The node of the floating-point number `x` with its `sign`. -/
def ofFloat (sign : Sign) (x : Float) : Node :=
  .float (FloatLayout.plain.text (if sign = .minus then -x else x))

/-- Cuts digits and underscores off the start of `text`; among them has to be a digit. The
underscores are dropped. -/
def cutDigits? (text : List Char) : Option (List Char × List Char) :=
  let isDigitOrMark (c : Char) : Bool := c.isDigit || c == '_'
  let digits := (text.takeWhile isDigitOrMark).filter Char.isDigit
  if digits.isEmpty then none else some (digits, text.dropWhile isDigitOrMark)

/-- Cuts decimals off the start of a text, if a point starts there. -/
def cutDecimals? : List Char → Option (List Char × List Char)
  | '.' :: rest => cutDigits? rest
  | text => some ([], text)

/-- Cuts an exponent off the start of a text, if one starts there. -/
def cutExponent? : List Char → Option (Int × List Char)
  | c :: rest =>
    if c == 'e' || c == 'E' then
      let (sign, rest) := splitSign rest
      (cutDigits? rest).map fun (digits, rest) =>
        (if sign = .minus then -(valueOf 10 digits : Int) else valueOf 10 digits, rest)
    else some (0, c :: rest)
  | [] => some (0, [])

/-- Reads a floating-point number from `text`, which comes after its `sign`. -/
def float? (sign : Sign) (text : List Char) : Option Node := do
  let (whole, rest) ← cutDigits? text
  let (decimals, rest) ← cutDecimals? rest
  let (exponent, rest) ← cutExponent? rest
  if !rest.isEmpty || (1 < whole.length && text.head? == some '0') ||
      !underscoresFit Char.isDigit (decide (sign ≠ .absent)) text then none
  else
    let significand := valueOf 10 (whole ++ decimals)
    return (nearestFloat? significand (exponent - decimals.length)).elim .cut (ofFloat sign)

/-- Whether the `rest` of a text after some digits has a point or an exponent. -/
def looksLikeFloat (rest : List Char) : Bool :=
  rest.any fun c => c == '.' || c == 'e' || c == 'E'

/-- Reads a number, a date or a time from `text`; which of them it is shows after its first
digits. -/
def numberOrMoment? (text : List Char) : Option Node :=
  let (sign, body) := splitSign text
  if body == "inf".toList then some (ofFloat sign (1.0 / 0.0))
  else if body == "nan".toList then some (ofFloat .absent (0.0 / 0.0))
  else if body.isEmpty then none
  else
    let rest := body.dropWhile Char.isDigit
    if rest.head? == some '-' || rest.head? == some ':' then
      if TomlMoment.isMoment text then some .moment else none
    else if rest.contains ' ' then none
    else if looksLikeFloat rest then float? sign body
    else if rest.isEmpty || rest.head? == some '_' then decimalInteger? sign body
    else none

/-- Reads `text` as an unquoted value. -/
def read? (text : List Char) : Option Node :=
  match text with
  | '0' :: 'x' :: digits => basedInteger? 16 digits
  | '0' :: 'o' :: digits => basedInteger? 8 digits
  | '0' :: 'b' :: digits => basedInteger? 2 digits
  | _ =>
    if text == "true".toList then some (.bool true)
    else if text == "false".toList then some (.bool false)
    else numberOrMoment? text

end AccessorSchema.TomlScalar
