/-!
# Dates and times in TOML

**`TomlMoment.isMoment`** recognises a date, a time of day, or both together with or without the
offset of a time zone. Days have to exist in their month; seconds and their fractions may be left
out.
-/

namespace AccessorSchema.TomlMoment

/-- The value of two decimal digits at the start of a text. -/
def twoDigits? : List Char → Option (Nat × List Char)
  | a :: b :: rest =>
    if a.isDigit && b.isDigit then
      some (10 * (a.toNat - '0'.toNat) + (b.toNat - '0'.toNat), rest)
    else none
  | _ => none

/-- How many days the `month` of a `year` has. -/
def daysIn (year month : Nat) : Nat :=
  if month == 2 then
    if year % 4 == 0 && (year % 100 != 0 || year % 400 == 0) then 29 else 28
  else if month == 4 || month == 6 || month == 9 || month == 11 then 30
  else 31

/-- Cuts a date off the start of `text`. -/
def dropDate? (text : List Char) : Option (List Char) := do
  let (century, text) ← twoDigits? text
  match ← twoDigits? text with
  | (year, '-' :: text) =>
    match ← twoDigits? text with
    | (month, '-' :: text) =>
      let (day, text) ← twoDigits? text
      if 1 ≤ month && month ≤ 12 && 1 ≤ day && day ≤ daysIn (100 * century + year) month then
        return text
      else none
    | _ => none
  | _ => none

/-- Cuts hours and minutes off the start of `text`. -/
def dropHoursMinutes? (text : List Char) : Option (List Char) := do
  match ← twoDigits? text with
  | (hour, ':' :: text) =>
    let (minute, text) ← twoDigits? text
    if hour ≤ 23 && minute ≤ 59 then return text else none
  | _ => none

/-- Cuts a time off the start of `text`; seconds and their fractions may be missing. -/
def dropTime? (text : List Char) : Option (List Char) := do
  match ← dropHoursMinutes? text with
  | ':' :: text =>
    let (second, text) ← twoDigits? text
    if 60 < second then none
    else
      match text with
      | '.' :: text =>
        if (text.takeWhile Char.isDigit).isEmpty then none else return text.dropWhile Char.isDigit
      | text => return text
  | text => return text

/-- Whether a text is a time zone offset or empty. -/
def isOffset : List Char → Bool
  | [] => true
  | ['Z'] => true
  | ['z'] => true
  | '+' :: text => dropHoursMinutes? text == some []
  | '-' :: text => dropHoursMinutes? text == some []
  | _ => false

/-- Whether `text` is a date without a time. -/
def isDate (text : List Char) : Bool := dropDate? text == some []

/-- Whether `text` is a date, a time, or a date with a time. -/
def isMoment (text : List Char) : Bool :=
  match dropDate? text with
  | none => dropTime? text == some []
  | some [] => true
  | some (separator :: rest) =>
    (separator == 'T' || separator == 't' || separator == ' ') &&
      match dropTime? rest with
      | none => false
      | some offset => isOffset offset

end AccessorSchema.TomlMoment
