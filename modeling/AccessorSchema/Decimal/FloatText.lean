import AccessorSchema.Decimal.Shortest

/-!
# Texts of floating-point numbers

**`FloatLayout`** says where a notation changes from plain decimals to powers of ten; digits are
always the fewest that read back.
-/

namespace AccessorSchema

/-- How floating-point numbers are laid out, by their size. -/
structure FloatLayout where
  /-- Whether a number whose first digit has this power of ten is written without exponent. -/
  positional : Int → Bool

namespace FloatLayout

/-- JSON numbers have an exponent if they are `1e16` or greater or less than `1e-5`. -/
def json : FloatLayout := ⟨fun e => -5 ≤ e && e ≤ 15⟩

/-- Plain decimals throughout, whatever the size. -/
def plain : FloatLayout := ⟨fun _ => true⟩

end FloatLayout

/-- The digits of `n · 10^k` without closing zeros, and the power of ten of the last one. -/
def significantDigits (n : Nat) (k : Int) : List Char × Int :=
  let digits := Nat.toDigits 10 n
  let zeros := (digits.reverse.takeWhile (· == '0')).length
  (digits.take (digits.length - zeros), k + zeros)

/-- The decimal of `digits` that ends at the power `k`, without exponent and with at least one digit
on either side of the point. -/
def positionalText (digits : List Char) (k : Int) : List Char :=
  let whole := digits.length + k
  if 0 ≤ k then digits ++ List.replicate k.toNat '0' ++ ['.', '0']
  else if 0 < whole then digits.take whole.toNat ++ '.' :: digits.drop whole.toNat
  else '0' :: '.' :: List.replicate (-whole).toNat '0' ++ digits

/-- The decimal of `digits` with an `exponent` that always has a sign. -/
def scientificText (digits : List Char) (exponent : Int) : List Char :=
  let mantissa := match digits with
    | d :: e :: rest => d :: '.' :: e :: rest
    | _ => digits
  mantissa ++ 'e' :: (if exponent < 0 then '-' else '+') :: (toString exponent.natAbs).toList

/-- The text of `m · 2^q` for a number other than zero. -/
def FloatLayout.positiveText (layout : FloatLayout) (m : Nat) (q : Int) (narrow : Bool) :
    List Char :=
  let (n, k) := shortestDecimal m q narrow
  let (digits, k) := significantDigits n k
  let exponent := digits.length + k - 1
  if layout.positional exponent then positionalText digits k else scientificText digits exponent

/-- The text of the double-precision number `x`. -/
def FloatLayout.text (layout : FloatLayout) (x : Float) : String :=
  if x.isNaN then "NaN"
  else
    let bits := x.toBits.toNat
    let fraction : Nat := bits % powerOfTwo 52
    let exponent : Nat := bits / powerOfTwo 52 % powerOfTwo 11
    let sign := if bits / powerOfTwo 63 == 1 then "-" else ""
    if exponent == 2047 then sign ++ "inf"
    else if exponent == 0 then
      if fraction == 0 then sign ++ "0.0"
      else sign ++ String.ofList (layout.positiveText fraction (-1074) false)
    else
      sign ++ String.ofList
        (layout.positiveText (powerOfTwo 52 + fraction) ((exponent : Int) - 1075)
          (fraction == 0 && exponent > 1))

end AccessorSchema
