import AccessorSchema.Document.Codec

/-!
# Building TOML tables

A table can be given in pieces: by its own header, by headers and dotted keys that lead through it,
and, for arrays of tables, one element at a time. Each way restricts the others, so a table that is
still being built remembers its **`TableOrigin`**.

* **`TomlItem.addEntry`** — an entry under a dotted key;
* **`TomlItem.addTable`**, **`TomlItem.addElement`** — a table, or an element of an array of tables,
  under a header;
* **`TomlItem.toNode`** — the finished table, its members by increasing name.
-/

namespace AccessorSchema

/-- How a table came to be, which decides what may be added to it. -/
inductive TableOrigin where
  /-- By its own header, as an element of an array of tables, or as the root. -/
  | header
  /-- By a header that leads through it. -/
  | longerHeader
  /-- By a dotted key that leads through it. -/
  | dottedKey
deriving DecidableEq, Repr

/-- A table under construction, or what lies in it. -/
inductive TomlItem where
  /-- A finished value; inline tables are finished, too. -/
  | value (n : Node)
  | table (origin : TableOrigin) (entries : List (String × TomlItem))
  /-- An array of tables. -/
  | tables (elements : List TomlItem)
deriving Repr, Inhabited

/-- The entries of a table in the order in which they were given. -/
abbrev TomlEntries := List (String × TomlItem)

namespace TomlItem

/-- Sets the entry `key` to `item`: in place if there is one of that name, and otherwise at the
end. -/
def setEntry (key : String) (item : TomlItem) : TomlEntries → TomlEntries
  | [] => [(key, item)]
  | (k, i) :: rest => if k = key then (k, item) :: rest else (k, i) :: setEntry key item rest

/-- Changes the table at the end of a path by `change`. Missing tables on the way are made; of an
array of tables the last element is entered. A `dotted` key does not lead through a table with a
header of its own. -/
def changeAt (dotted : Bool) (change : TableOrigin → TomlEntries → Except DecodeError TomlEntries) :
    List String → TableOrigin → TomlEntries → Except DecodeError TomlEntries
  | [], origin, entries => change origin entries
  | key :: path, _, entries =>
    match entries.lookup key with
    | none => do
      let origin := if dotted then .dottedKey else .longerHeader
      return setEntry key (.table origin (← changeAt dotted change path origin [])) entries
    | some (.table origin inner) =>
      if dotted && origin = .header then .error .malformed
      else do
        return setEntry key (.table origin (← changeAt dotted change path origin inner)) entries
    | some (.tables elements) =>
      match elements.getLast? with
      | some (.table origin inner) => do
        let last := .table origin (← changeAt dotted change path origin inner)
        return setEntry key (.tables (elements.dropLast ++ [last])) entries
      | _ => .error .malformed
    | some (.value _) => .error .malformed

/-- Adds the value `n` under a dotted `key`. The table it goes into has to have been made by dotted
keys, unless the key has a single part; the name has to be new. -/
def addEntry (entries : TomlEntries) (key : List String) (n : Node) :
    Except DecodeError TomlEntries :=
  match key.getLast? with
  | none => .error .malformed
  | some name =>
    let path := key.dropLast
    let add (origin : TableOrigin) (entries : TomlEntries) : Except DecodeError TomlEntries :=
      if decide (origin = .dottedKey) != !path.isEmpty then .error .malformed
      else if (entries.lookup name).isSome then .error .malformed
      else .ok (entries ++ [(name, .value n)])
    changeAt true add path .header entries

/-- Fills the table below `header` by `fill`. It may only have been made by longer headers before;
whether it may be filled at all is found out before its contents are. -/
def addTable (entries : TomlEntries) (header : List String)
    (fill : TomlEntries → Except DecodeError TomlEntries) : Except DecodeError TomlEntries :=
  match header.getLast? with
  | none => .error .malformed
  | some name =>
    let add (_ : TableOrigin) (entries : TomlEntries) : Except DecodeError TomlEntries :=
      match entries.lookup name with
      | none => do return setEntry name (.table .header (← fill [])) entries
      | some (.table .longerHeader inner) => do
        return setEntry name (.table .header (← fill inner)) entries
      | _ => .error .malformed
    changeAt false add header.dropLast .header entries

/-- Adds the table `element` to the array of tables below `header`, or starts one with it. -/
def addElement (entries : TomlEntries) (header : List String) (element : TomlEntries) :
    Except DecodeError TomlEntries :=
  match header.getLast? with
  | none => .error .malformed
  | some name =>
    let add (_ : TableOrigin) (entries : TomlEntries) : Except DecodeError TomlEntries :=
      match entries.lookup name with
      | none => .ok (setEntry name (.tables [.table .header element]) entries)
      | some (.tables elements) =>
        .ok (setEntry name (.tables (elements ++ [.table .header element])) entries)
      | _ => .error .malformed
    changeAt false add header.dropLast .header entries

/-- Puts `members` in the order of their names. -/
def sortMembers (members : List (String × Node)) : List (Node × Node) :=
  (members.mergeSort fun a b => a.1 ≤ b.1).map fun (k, n) => (.string k, n)

mutual

/-- A finished item, its members sorted by `sortMembers`. -/
def toNode : TomlItem → Node
  | .value n => n
  | .table _ entries => .object (sortMembers (toMembers entries))
  | .tables elements => .array (toNodes elements)

/-- Finished elements, by `toNode`. -/
def toNodes : List TomlItem → List Node
  | [] => []
  | i :: rest => toNode i :: toNodes rest

/-- Finished entries, by `toNode`. -/
def toMembers : List (String × TomlItem) → List (String × Node)
  | [] => []
  | (k, i) :: rest => (k, toNode i) :: toMembers rest

end

end TomlItem

end AccessorSchema
