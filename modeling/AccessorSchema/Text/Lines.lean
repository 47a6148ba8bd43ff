/-!
# Lines of text

**`linesText`** puts an end after each line; **`firstLine`** is the text before the first end.
-/

namespace AccessorSchema

/-- The text of `lines`, each with its end. -/
def linesText (lines : List String) : String := String.join (lines.map (· ++ "\n"))

/-- `untilLineEnd`: characters up to the first line end, which is a line feed or a carriage return
with a line feed after it. -/
def untilLineEnd : List Char → List Char
  | [] => []
  | '\n' :: _ => []
  | '\r' :: '\n' :: _ => []
  | c :: rest => c :: untilLineEnd rest

/-- `text` up to its first line end. -/
def firstLine (text : String) : String := String.ofList (untilLineEnd text.toList)

end AccessorSchema
