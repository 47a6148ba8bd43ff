/-!
# The tokens of TOML text

**`TomlToken.scan`** cuts a text into line ends, blanks, comments, punctuation, strings and words.
A word is whatever lies between these: a bare key, or a piece of a number, a date or a boolean.
Strings and words are only cut out here; what they stand for, and whether they stand for anything,
is seen later. The token `bad` comes where a carriage return has no line feed after it, or where a
comment has a control character.
-/

namespace AccessorSchema

/-- The quotes a string is written with. -/
structure TomlQuotes where
  /-- Double quotes, between which there are escapes. -/
  basic : Bool
  /-- Three quotes on either side, between which there may be line ends. -/
  severalLines : Bool
deriving DecidableEq, Repr

/-- The quote character of `q`. -/
def TomlQuotes.char (q : TomlQuotes) : Char := if q.basic then '"' else '\x27'

/-- The quotes of `q` at the end of a string. -/
def TomlQuotes.closing (q : TomlQuotes) : List Char :=
  List.replicate (if q.severalLines then 3 else 1) q.char

/-- `TomlToken`: a piece of TOML text. -/
inductive TomlToken where
  | lineEnd
  | blank (text : List Char)
  | comment
  | dot
  | equals
  | comma
  | openBracket
  | closeBracket
  | openBrace
  | closeBrace
  /-- A string, of which everything after the opening quotes is given. If it is not closed it ends
  with its line, or with the text if it may have several lines. -/
  | quoted (quotes : TomlQuotes) (body : List Char)
  | word (text : List Char)
  /-- The text is no longer TOML. -/
  | bad
deriving DecidableEq, Repr, Inhabited

namespace TomlToken

/-- Whether `c` may stand within a line; of the control characters this is only the tab. -/
def isPlain (c : Char) : Bool := c == '\t' || (0x20 ≤ c.toNat && c.toNat ≠ 0x7F)

/-- Spaces and tabs. -/
def isBlank (c : Char) : Bool := c == ' ' || c == '\t'

/-- `text.dropWhile p` is no longer than `text`. -/
theorem length_dropWhile_le (p : Char → Bool) (text : List Char) :
    (text.dropWhile p).length ≤ text.length :=
  (List.dropWhile_suffix p).length_le

/-- `punctuation?`: the token of a punctuation character. -/
def punctuation? : Char → Option TomlToken
  | '\n' => some .lineEnd
  | '.' => some .dot
  | '=' => some .equals
  | ',' => some .comma
  | '[' => some .openBracket
  | ']' => some .closeBracket
  | '{' => some .openBrace
  | '}' => some .closeBrace
  | _ => none

/-- Whether `c` ends a word. Quotes do not end it. -/
def endsWord (c : Char) : Bool :=
  isBlank c || c == '\r' || (punctuation? c).isSome || c == '#'

/-- How many quotes `q` the `text` starts with. -/
def leadingQuotes (q : Char) (text : List Char) : Nat := (text.takeWhile (· == q)).length

/-- What the scanner is in: `between` tokens, a comment, or a string. -/
inductive Place where
  | between
  /-- A comment. -/
  | comment
  /-- A string, of which the characters so far are given backwards. -/
  | string (quotes : TomlQuotes) (read : List Char)
deriving Repr

/-- The tokens of `text` from some `place` on. -/
def scanFrom (place : Place) (text : List Char) : List TomlToken :=
  match place, text with
  | .between, [] => []
  | .comment, [] => [.comment]
  | .string q read, [] => [.quoted q read.reverse]
  | .comment, c :: rest =>
    if c == '\n' then .comment :: .lineEnd :: scanFrom .between rest
    else if c == '\r' && rest.head? == some '\n' then
      .comment :: .lineEnd :: scanFrom .between (rest.drop 1)
    else if isPlain c then scanFrom .comment rest
    else [.bad]
  | .string q read, c :: rest =>
    if c == q.char then
      if q.severalLines then
        -- Up to two quotes may stand right before the closing three.
        let quotes := leadingQuotes q.char (c :: rest)
        if quotes < 3 then scanFrom (.string q (c :: read)) rest
        else
          let taken := min quotes 5
          .quoted q (read.reverse ++ List.replicate taken c) ::
            scanFrom .between (rest.drop (taken - 1))
      else .quoted q (c :: read).reverse :: scanFrom .between rest
    else if c == '\\' && q.basic then
      -- A backslash keeps a quote or another backslash after it from having a meaning of its own.
      match rest with
      | [] => [.quoted q (c :: read).reverse]
      | e :: others =>
        if e == '\\' || e == q.char then scanFrom (.string q (e :: c :: read)) others
        else scanFrom (.string q (c :: read)) (e :: others)
    else if !q.severalLines && c == '\n' then
      .quoted q read.reverse :: .lineEnd :: scanFrom .between rest
    else scanFrom (.string q (c :: read)) rest
  | .between, c :: rest =>
    if isBlank c then
      .blank ((c :: rest).takeWhile isBlank) :: scanFrom .between (rest.dropWhile isBlank)
    else if c == '#' then scanFrom .comment rest
    else if c == '"' || c == '\x27' then
      if leadingQuotes c (c :: rest) < 3 then scanFrom (.string ⟨c == '"', false⟩ []) rest
      else scanFrom (.string ⟨c == '"', true⟩ []) (rest.drop 2)
    else if c == '\r' then
      if rest.head? == some '\n' then .lineEnd :: scanFrom .between (rest.drop 1) else [.bad]
    else
      match punctuation? c with
      | some t => t :: scanFrom .between rest
      | none =>
        .word (c :: rest.takeWhile (!endsWord ·)) :: scanFrom .between (rest.dropWhile (!endsWord ·))
termination_by text.length
decreasing_by all_goals grind [length_dropWhile_le]

/-- The tokens of `text`; a byte order mark at its start is passed over. -/
def scan (text : String) : List TomlToken :=
  match text.toList with
  | '\uFEFF' :: rest => scanFrom .between rest
  | chars => scanFrom .between chars

end TomlToken

end AccessorSchema
