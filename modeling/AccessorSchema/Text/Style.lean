/-!
# Styled text on terminals

A **`TextStyle`** is a colour, a weight, or both, and **`TextStyle.paint`** puts a text between the
control sequences that switch the style on and off. A text that itself switches styles off gets the
style again after each such place.
-/

namespace AccessorSchema

/-- Colours of text. -/
inductive TextColor where
  | red
  | green
  | yellow
  | blue
deriving DecidableEq, Repr

/-- The number of a `TextColor` in a control sequence. -/
def TextColor.code : TextColor → String
  | .red => "31"
  | .green => "32"
  | .yellow => "33"
  | .blue => "34"

/-- How strong text looks. -/
inductive TextWeight where
  | bold
  | dimmed
deriving DecidableEq, Repr

/-- The number of a `TextWeight` in a control sequence. -/
def TextWeight.code : TextWeight → String
  | .bold => "1"
  | .dimmed => "2"

/-- How text looks: its `weight` and its `color`. -/
structure TextStyle where
  weight : Option TextWeight := none
  color : Option TextColor := none
deriving DecidableEq, Repr

namespace TextStyle

/-- A control sequence with the numbers `codes`. -/
def sequence (codes : List String) : String := "\x1b[" ++ ";".intercalate codes ++ "m"

/-- What switches every style off. -/
def off : String := sequence ["0"]

/-- What switches the style `s` on; the weight comes before the colour. -/
def on (s : TextStyle) : String :=
  sequence (s.weight.toList.map TextWeight.code ++ s.color.toList.map TextColor.code)

/-- `text` in the style `s`, or without it if `colored` is false. -/
def paint (colored : Bool) (s : TextStyle) (text : String) : String :=
  if colored then s.on ++ text.replace off (off ++ s.on) ++ off else text

/-- The style of text in bold. -/
def bold : TextStyle := { weight := some .bold }

/-- The style of faint text. -/
def dimmed : TextStyle := { weight := some .dimmed }

/-- The style of text in the colour `c`. -/
def colored (c : TextColor) : TextStyle := { color := some c }

/-- The style of text in bold and in the colour `c`. -/
def boldColored (c : TextColor) : TextStyle := { weight := some .bold, color := some c }

end TextStyle

end AccessorSchema
