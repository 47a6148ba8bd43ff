import AccessorSchema.Document.Toml.Token

/-!
# The layout of TOML text

**`TomlLayout.sections?`** finds out which keys, values and headers a text consists of, without
looking into any of them: names, strings and numbers are left as they are written. It fails if the
parts of the text do not fit together. The work is done by a machine that takes one token at a
time; the values it is inside of lie on a stack.

* **`TomlLayout.step?`** — one token;
* `TomlForm` — a value as it is written;
* `TomlSection` — a header with the entries below it.

A part of a key that is left out, as in `a..b = 1`, and a value that is left out at the end of a line
are empty pieces: it is not the layout that is wrong there.
-/

namespace AccessorSchema

/-- A name or a scalar as it is written: `bare`, or with quotes. -/
inductive TomlPiece where
  | bare (text : List Char)
  | quoted (quotes : TomlQuotes) (body : List Char)
deriving DecidableEq, Repr, Inhabited

/-- The parts of a key, of which there are several if it is dotted. -/
abbrev TomlKey := List TomlPiece

/-- A value as it is written, inline tables with their `entries` in order. -/
inductive TomlForm where
  | piece (p : TomlPiece)
  | array (items : List TomlForm)
  | table (entries : List (TomlKey × TomlForm))
deriving Repr, Inhabited

/-- A header, unless these are the entries before the first one, and the entries below it. -/
structure TomlSection where
  /-- Whether the header is that of an array element. -/
  element : Bool := false
  header : TomlKey := []
  entries : List (TomlKey × TomlForm) := []
deriving Repr, Inhabited

/-- What waits for a value, with what has been read of it backwards. -/
inductive TomlFrame where
  /-- An entry of a section. -/
  | entry (key : TomlKey)
  | array (items : List TomlForm)
  /-- An entry of an inline table. -/
  | inlineEntry (entries : List (TomlKey × TomlForm)) (key : TomlKey)
deriving Repr, Inhabited

/-- What a key is for: an entry, a header, or an entry of an inline table. -/
inductive KeyUse where
  | entry
  | header (element : Bool)
  | inlineEntry (entries : List (TomlKey × TomlForm))
deriving Repr, Inhabited

/-- `TomlPlace`: where the machine is, with what it has read there. -/
inductive TomlPlace where
  /-- At the start of a line. -/
  | lineStart
  /-- After the first bracket of a header. -/
  | bracket
  /-- Before a part of a key. -/
  | keyPart (use : KeyUse) (parts : TomlKey)
  /-- After a part of a key. -/
  | afterKeyPart (use : KeyUse) (parts : TomlKey)
  /-- Between the key of an inline entry and its equals sign, after a line end. -/
  | beforeEquals (entries : List (TomlKey × TomlForm)) (key : TomlKey)
  /-- After the first closing bracket of an element header. -/
  | closeHeader (parts : TomlKey)
  /-- Before a value. -/
  | value
  /-- In an unquoted value. -/
  | word (text : List Char)
  /-- After an unquoted value and some blanks: the value may go on, as a date does with a time. -/
  | wordBlank (text blanks : List Char)
  /-- After an item of an array. -/
  | nextItem (items : List TomlForm)
  /-- After an entry of an inline table. -/
  | nextMember (entries : List (TomlKey × TomlForm))
  /-- After a header or an entry. -/
  | lineRest
deriving Repr, Inhabited

/-- The state of the machine that `step?` moves: the open forms on a `stack`, and its `place`. -/
structure TomlLayout where
  /-- The finished sections, the last one first. -/
  finished : List TomlSection := []
  /-- The section being read, with its last entry first. -/
  current : TomlSection := {}
  stack : List TomlFrame := []
  place : TomlPlace := .lineStart
deriving Repr, Inhabited

/-- The section `s` with its entries turned around. -/
def TomlSection.reversed (s : TomlSection) : TomlSection := { s with entries := s.entries.reverse }

namespace TomlLayout

/-- How many arrays and inline tables may lie inside each other. -/
def nestingLimit : Nat := 80

/-- The state after the complete value `form`, which goes to what waits for it. -/
def finish? (r : TomlLayout) (form : TomlForm) : Option TomlLayout :=
  match r.stack with
  | .entry key :: rest =>
    some { r with
      current := { r.current with entries := (key, form) :: r.current.entries }
      stack := rest
      place := .lineRest }
  | .array items :: rest => some { r with stack := rest, place := .nextItem (form :: items) }
  | .inlineEntry entries key :: rest =>
    some { r with stack := rest, place := .nextMember ((key, form) :: entries) }
  | [] => none

/-- The state after an inline table with these `entries`, the last one first. -/
def finishTable? (r : TomlLayout) (entries : List (TomlKey × TomlForm)) : Option TomlLayout :=
  r.finish? (.table entries.reverse)

/-- Takes the token `t` after a complete value. -/
def stepAfterValue? (r : TomlLayout) (t : TomlToken) : Option TomlLayout :=
  match r.place, t with
  | .lineRest, .blank _ => some r
  | .lineRest, .comment => some r
  | .lineRest, .lineEnd => some { r with place := .lineStart }
  | .nextItem _, .blank _ => some r
  | .nextItem _, .comment => some r
  | .nextItem _, .lineEnd => some r
  | .nextItem items, .comma => some { r with stack := .array items :: r.stack, place := .value }
  | .nextItem items, .closeBracket => r.finish? (.array items.reverse)
  | .nextMember _, .blank _ => some r
  | .nextMember _, .comment => some r
  | .nextMember _, .lineEnd => some r
  | .nextMember entries, .comma => some { r with place := .keyPart (.inlineEntry entries) [] }
  | .nextMember entries, .closeBrace => r.finishTable? entries
  | _, _ => none

/-- Takes the token `t` after the scalar `p`, which is thereby complete. -/
def stepAfterPiece? (r : TomlLayout) (p : TomlPiece) (t : TomlToken) : Option TomlLayout := do
  let r ← r.finish? (.piece p)
  r.stepAfterValue? t

/-- Goes on to `inner`, an array or an inline table, unless too many are open (`nestingLimit`). -/
def nest? (r : TomlLayout) (inner : TomlLayout) : Option TomlLayout :=
  if r.stack.length ≤ nestingLimit then some inner else none

/-- Takes the token `t` where a value has to start. -/
def stepAtValue? (r : TomlLayout) (t : TomlToken) : Option TomlLayout :=
  match t, r.stack with
  | .blank _, _ => some r
  | .comment, .entry _ :: _ => r.stepAfterPiece? (.bare []) t
  | .lineEnd, .entry _ :: _ => r.stepAfterPiece? (.bare []) t
  | .comment, _ => some r
  | .lineEnd, _ => some r
  | .closeBracket, .array items :: rest => { r with stack := rest }.finish? (.array items.reverse)
  | .openBracket, _ => r.nest? { r with stack := .array [] :: r.stack }
  | .openBrace, _ => r.nest? { r with place := .keyPart (.inlineEntry []) [] }
  | .quoted q body, _ => r.finish? (.piece (.quoted q body))
  | .word text, _ => some { r with place := .word text }
  | .dot, _ => some { r with place := .word ['.'] }
  | _, _ => none

/-- The state after a `header`. -/
def startSection (r : TomlLayout) (element : Bool) (header : TomlKey) : TomlLayout :=
  { finished := r.current.reversed :: r.finished
    current := { element, header }
    place := .lineRest }

/-- Takes the token `t` after a part of a key. -/
def stepAfterKey? (r : TomlLayout) (use : KeyUse) (parts : TomlKey) (t : TomlToken) :
    Option TomlLayout :=
  match t, use with
  | .blank _, _ => some { r with place := .afterKeyPart use parts }
  | .dot, _ => some { r with place := .keyPart use parts }
  | .equals, .entry => some { r with stack := [.entry parts], place := .value }
  | .equals, .inlineEntry entries =>
    some { r with stack := .inlineEntry entries parts :: r.stack, place := .value }
  | .comment, .inlineEntry entries => some { r with place := .beforeEquals entries parts }
  | .lineEnd, .inlineEntry entries => some { r with place := .beforeEquals entries parts }
  | .closeBracket, .header false => some (r.startSection false parts)
  | .closeBracket, .header true => some { r with place := .closeHeader parts }
  | _, _ => none

/-- Takes the token `t` as a part of a key. Before the first one, an inline table may have comments
and line ends, or be closed; any other token comes after a part that is left out. -/
def stepAtKey? (r : TomlLayout) (use : KeyUse) (parts : TomlKey) (t : TomlToken) :
    Option TomlLayout :=
  match t, use, parts with
  | .blank _, _, _ => some { r with place := .keyPart use parts }
  | .word text, _, _ => some { r with place := .afterKeyPart use (parts ++ [.bare text]) }
  | .quoted q body, _, _ => some { r with place := .afterKeyPart use (parts ++ [.quoted q body]) }
  | .comment, .inlineEntry _, [] => some r
  | .lineEnd, .inlineEntry _, [] => some r
  | .closeBrace, .inlineEntry entries, [] => r.finishTable? entries
  | _, _, _ => r.stepAfterKey? use (parts ++ [.bare []]) t

/-- Takes the token `t` in the state `r`; `none` if the text is no document. -/
def step? (r : TomlLayout) (t : TomlToken) : Option TomlLayout :=
  match r.place, t with
  | .lineStart, .blank _ => some r
  | .lineStart, .comment => some r
  | .lineStart, .lineEnd => some r
  | .lineStart, .openBracket => some { r with place := .bracket }
  | .lineStart, t => r.stepAtKey? .entry [] t
  | .bracket, .openBracket => some { r with place := .keyPart (.header true) [] }
  | .bracket, t => r.stepAtKey? (.header false) [] t
  | .keyPart use parts, t => r.stepAtKey? use parts t
  | .afterKeyPart use parts, t => r.stepAfterKey? use parts t
  | .beforeEquals _ _, .blank _ => some r
  | .beforeEquals _ _, .comment => some r
  | .beforeEquals _ _, .lineEnd => some r
  | .beforeEquals entries key, .equals => r.stepAfterKey? (.inlineEntry entries) key .equals
  | .beforeEquals _ _, _ => none
  | .closeHeader parts, .closeBracket => some (r.startSection true parts)
  | .closeHeader _, _ => none
  | .value, t => r.stepAtValue? t
  | .word text, .word more => some { r with place := .word (text ++ more) }
  | .word text, .dot => some { r with place := .word (text ++ ['.']) }
  | .word text, .blank blanks => some { r with place := .wordBlank text blanks }
  | .word text, t => r.stepAfterPiece? (.bare text) t
  | .wordBlank text blanks, .word more => some { r with place := .word (text ++ blanks ++ more) }
  | .wordBlank text _, t => r.stepAfterPiece? (.bare text) t
  | .nextItem _, t => r.stepAfterValue? t
  | .nextMember _, t => r.stepAfterValue? t
  | .lineRest, t => r.stepAfterValue? t

/-- `complete?`: the sections of a complete document, in order; the first one has no header. -/
def complete? (r : TomlLayout) : Option (List TomlSection) :=
  match r.place with
  | .lineStart | .lineRest => some (r.current.reversed :: r.finished).reverse
  | _ => none

/-- The sections that `text` consists of. It is read as if a line end followed it. -/
def sections? (text : String) : Option (List TomlSection) := do
  let r ← (TomlToken.scan text ++ [TomlToken.lineEnd]).foldlM step? {}
  r.complete?

end TomlLayout

end AccessorSchema
