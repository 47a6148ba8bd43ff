import AccessorSchema.Collection.OrderedMap
import AccessorSchema.File.System

/-!
# File trees

A **`FileTree`** is a directory as a value: what it holds, by the names that lead there. Paths are
followed from the directory itself, name by name, so a file on the way is noticed before a missing
one behind it.

* `FileTree.locate` — where a path leads;
* `FileTree.read`, `FileTree.write` — the texts of files;
* `FileTree.addDirectory?`, `FileTree.addFile?` — set a tree up.
-/

namespace AccessorSchema

/-- What stands at a place in a `FileTree`. -/
inductive FileEntry where
  | directory
  | file (bytes : ByteArray)

/-- Files and directories by the names that lead to them from the starting place. -/
structure FileTree where
  entries : OrderedMap (List String) FileEntry := ∅

namespace FileTree

instance : EmptyCollection FileTree := ⟨{}⟩

/-- What stands in `t` at `place`; the starting place is a directory. -/
def entry? (t : FileTree) (place : List String) : Option FileEntry :=
  if place.isEmpty then some .directory else t.entries.get? place

/-- `.ok` if `place` is a directory of `t`, and otherwise what is wrong with it. -/
def directory (t : FileTree) (place : List String) : Except FileFault Unit :=
  match t.entry? place with
  | some .directory => .ok ()
  | some (.file _) => .error .notDirectory
  | none => .error .notFound

/-- One step from `place`, by a `piece` of a path. -/
def stepTo (place : List String) (piece : String) : List String :=
  if Path.isIdle piece then place
  else if piece = ".." then place.dropLast
  else place ++ [piece]

/-- Follows pieces of a path from `place`, by `stepTo`; each step starts in a directory. -/
def follow (t : FileTree) (place : List String) : List String → Except FileFault (List String)
  | [] => .ok place
  | piece :: rest => do
    t.directory place
    follow t (stepTo place piece) rest

/-- Where `p` leads; outside the tree there is nothing. -/
def locate (t : FileTree) (p : Path) : Except FileFault (List String) :=
  if p = "" || p.startsWith "/" then .error .notFound else t.follow [] (p.splitOn "/")

/-- The text of the file at `p`. -/
def read (t : FileTree) (p : Path) : Except FileFault String := do
  match t.entry? (← t.locate p) with
  | none => throw .notFound
  | some .directory => throw .isDirectory
  | some (.file bytes) =>
    match String.fromUTF8? bytes with
    | none => throw .notText
    | some text => return text

/-- Whether there is a file or directory at `p`. -/
def contains (t : FileTree) (p : Path) : Bool :=
  match t.locate p with
  | .error _ => false
  | .ok place => (t.entry? place).isSome

/-- Puts a file of `bytes` at `place`, in a directory that is there. -/
def putFile (t : FileTree) (place : List String) (bytes : ByteArray) :
    Except FileFault FileTree := do
  t.directory place.dropLast
  match t.entry? place with
  | some .directory => throw .isDirectory
  | _ => return { entries := t.entries.insert place (.file bytes) }

/-- The tree after `text` was written to the file at `p`. -/
def write (t : FileTree) (p : Path) (text : String) : Except FileFault FileTree := do
  t.putFile (← t.locate p) text.toUTF8

/-- Adds directories along a path from `place`, unless a file is in the way. -/
def addDirectories? (t : FileTree) (place : List String) : List String → Option FileTree
  | [] => some t
  | piece :: rest =>
    let next := stepTo place piece
    match t.entry? next with
    | some .directory => addDirectories? t next rest
    | some (.file _) => none
    | none => addDirectories? { entries := t.entries.insert next .directory } next rest

/-- Adds the directory `p` and those above it. -/
def addDirectory? (t : FileTree) (p : Path) : Option FileTree :=
  t.addDirectories? [] (p.splitOn "/")

/-- Adds the file `p` and the directories above it. -/
def addFile? (t : FileTree) (p : Path) (bytes : ByteArray) : Option FileTree := do
  let t ← t.addDirectories? [] (p.splitOn "/").dropLast
  match t.locate p with
  | .error _ => none
  | .ok place => (t.putFile place bytes).toOption

end FileTree

/-- A `FileTree` as the state of a computation is a file system. -/
instance : FileSystem (StateM FileTree) where
  read p := return (← get).read p
  contains p := return (← get).contains p
  write p text := do
    match (← get).write p text with
    | .error e => return .error e
    | .ok t =>
      set t
      return .ok ()

end AccessorSchema
