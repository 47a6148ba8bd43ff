/-!
# Paths

A **`Path`** is a text with slashes between its components. Components that are empty or a single
dot stand for no step, except for a dot at the very start, which counts as a step of its own.

* **`Path.parent?`** — the path without its last step;
* **`Path.ancestors`** — a path, its parent, the parent's parent, and so on;
* `Path.extension?` — what follows the last dot of the file name;
* `Path.join` — a name below a directory.
-/

namespace AccessorSchema

/-- A path in a file system, as it is written. -/
abbrev Path := String

namespace Path

/-- What `p` starts with before its components: a slash, a dot, or nothing. -/
def head (p : Path) : String :=
  if p.startsWith "/" then "/" else if p = "." || p.startsWith "./" then "." else ""

/-- The pieces between the slashes of `p` after its `head`. -/
def pieces (p : Path) : List String := (String.ofList (p.toList.drop p.head.length)).splitOn "/"

/-- Whether `piece` stands for no step. -/
def isIdle (piece : String) : Bool := piece = "" || piece = "."

/-- The `pieces` from the last to the first, beginning with the last step. -/
def stepsBackwards (p : Path) : List String := p.pieces.reverse.dropWhile isIdle

/-- `p` without its last step; the root and the empty path have none to go without. -/
def parent? (p : Path) : Option Path :=
  match p.stepsBackwards with
  -- Only the head is left: a leading dot is a step, a leading slash is not.
  | [] => if p.head = "." then some "" else none
  | _ :: before => some (p.head ++ "/".intercalate (before.dropWhile isIdle).reverse)

/-- A path and the paths above it, at most `count` in all. -/
def ancestors : Nat → Path → List Path
  | 0, _ => []
  | count + 1, p =>
    p :: match p.parent? with
      | none => []
      | some q => ancestors count q

/-- The name of the file or directory that `p` leads to; there is none for `..`. -/
def fileName? (p : Path) : Option String := p.stepsBackwards.head?.filter (· ≠ "..")

/-- What follows the last dot of `name`, if something stands before the dot. -/
def extensionOf? (name : String) : Option String :=
  match (name.splitOn ".").reverse with
  | last :: before :: more => if more.isEmpty && before = "" then none else some last
  | _ => none

/-- The extension of `p.fileName?`. -/
def extension? (p : Path) : Option String := p.fileName?.bind extensionOf?

/-- The path of `name` below `directory`. -/
def join (directory : Path) (name : String) : Path :=
  if directory = "" || directory.endsWith "/" then directory ++ name
  else directory ++ "/" ++ name

end Path

end AccessorSchema
