import AccessorSchema.Document.Json.Reader
import Mathlib

/-!
# Reading back what was written

A JSON value is written as a text in which everything that belongs together stands together, and read in
two steps: the scanner cuts the text into tokens, and a machine with a stack takes one token after the
other. Both steps undo the writing piece by piece, whatever comes after the piece.

* **`JsonToken.Scans`** — a text is cut into given tokens wherever a word may end after it;
* `JsonToken.scans_stringText` — a string with all its escapes is one token;
* **`Json.scans_compact`**, **`Json.scans_prettyFrom`** — a value is cut into the same tokens in both
  layouts;
* **`JsonReader.takes_tokens`** — the machine takes the tokens of a value as that value;
* **`JsonReader.read_compact`**, **`JsonReader.read_pretty`** — reading undoes writing, and nothing is left
  over.
-/

namespace AccessorSchema

/-- `List.Forall₂` relates two ways to go through a list if `R` relates them on every item. -/
theorem forall₂_map_map {α β γ : Type} {R : β → γ → Prop} {f : α → β} {g : α → γ} {l : List α}
    (h : ∀ a ∈ l, R (f a) (g a)) : List.Forall₂ R (l.map f) (l.map g) := by
  rw [List.forall₂_map_left_iff, List.forall₂_map_right_iff, List.forall₂_same]
  exact h

/-! ## Induction on values -/

namespace Json

/-- **Induction on a JSON value**: what holds of `array` and `object` as soon as it holds of
everything in them holds of all values. -/
theorem nested_induction {P : Json → Prop} (null : P .null) (bool : ∀ b, P (.bool b))
    (string : ∀ s, P (.string s)) (array : ∀ items, (∀ v ∈ items, P v) → P (.array items))
    (object : ∀ members, (∀ e ∈ members, P e.2) → P (.object members)) (v : Json) : P v :=
  @Json.rec P (fun items => ∀ v ∈ items, P v) (fun members => ∀ e ∈ members, P e.2)
    (fun e => P e.2) null bool string array object
    (fun _ hv => absurd hv List.not_mem_nil)
    (fun _ _ hv hrest => List.forall_mem_cons.2 ⟨hv, hrest⟩)
    (fun _ he => absurd he List.not_mem_nil)
    (fun _ _ he hrest => List.forall_mem_cons.2 ⟨he, hrest⟩)
    (fun _ _ hv => hv) v

theorem compactItems_eq_map (items : List Json) : compactItems items = items.map compact := by
  induction items with
  | nil => rfl
  | cons v rest ih => rw [compactItems, ih, List.map_cons]

theorem compactMembers_eq_map (members : List (String × Json)) :
    compactMembers members = members.map fun e => stringText e.1 ++ ":" ++ compact e.2 := by
  induction members with
  | nil => rfl
  | cons e rest ih => rw [compactMembers, ih, List.map_cons]

theorem prettyItems_eq_map (margin : String) (items : List Json) :
    prettyItems margin items = items.map (prettyFrom margin) := by
  induction items with
  | nil => rfl
  | cons v rest ih => rw [prettyItems, ih, List.map_cons]

theorem prettyMembers_eq_map (margin : String) (members : List (String × Json)) :
    prettyMembers margin members =
      members.map fun e => stringText e.1 ++ ": " ++ prettyFrom margin e.2 := by
  induction members with
  | nil => rfl
  | cons e rest ih => rw [prettyMembers, ih, List.map_cons]

end Json

theorem Node.ofItems_eq_map (items : List Json) : ofItems items = items.map ofJson := by
  induction items with
  | nil => rfl
  | cons v rest ih => rw [ofItems, ih, List.map_cons]

theorem Node.ofMembers_eq_map (members : List (String × Json)) :
    ofMembers members = members.map fun e => (.string e.1, ofJson e.2) := by
  induction members with
  | nil => rfl
  | cons e rest ih => rw [ofMembers, ih, List.map_cons]

/-! ## Tokens of a value -/

namespace Json

mutual

/-- `tokens v`: the tokens that the value `v` is written as. -/
def tokens : Json → List JsonToken
  | .null => [.scalar .null]
  | .bool b => [.scalar (.bool b)]
  | .string s => [.text (some s.toList)]
  | .array items => .openArray :: [.comma].intercalate (itemTokens items) ++ [.closeArray]
  | .object members => .openObject :: [.comma].intercalate (memberTokens members) ++ [.closeObject]

/-- `itemTokens`: the tokens of the items of an `array`. -/
def itemTokens : List Json → List (List JsonToken)
  | [] => []
  | v :: rest => tokens v :: itemTokens rest

/-- `memberTokens`: the tokens of the members of an `object`. -/
def memberTokens : List (String × Json) → List (List JsonToken)
  | [] => []
  | (k, v) :: rest => (.text (some k.toList) :: .colon :: tokens v) :: memberTokens rest

end

theorem itemTokens_eq_map (items : List Json) : itemTokens items = items.map tokens := by
  induction items with
  | nil => rfl
  | cons v rest ih => rw [itemTokens, ih, List.map_cons]

theorem memberTokens_eq_map (members : List (String × Json)) :
    memberTokens members =
      members.map fun e => .text (some e.1.toList) :: .colon :: tokens e.2 := by
  induction members with
  | nil => rfl
  | cons e rest ih => rw [memberTokens, ih, List.map_cons]

end Json

/-! ## Escapes -/

namespace Json

/-- **`escapeChar` escapes a character by a letter, by its number, or not at all.** -/
theorem escapeChar_cases (c : Char) :
    (∃ e, e ≠ 'u' ∧ JsonToken.escaped? e = some c ∧ escapeChar c = ['\\', e]) ∨
      (c.toNat < 0x20 ∧ escapeChar c = '\\' :: 'u' :: fourHexDigits c.toNat) ∨
      (¬ c.toNat < 0x20 ∧ c ≠ '"' ∧ c ≠ '\\' ∧ escapeChar c = [c]) := by
  unfold escapeChar
  split
  · exact .inl ⟨'"', by decide, rfl, rfl⟩
  · exact .inl ⟨'\\', by decide, rfl, rfl⟩
  · exact .inl ⟨'b', by decide, rfl, rfl⟩
  · exact .inl ⟨'f', by decide, rfl, rfl⟩
  · exact .inl ⟨'n', by decide, rfl, rfl⟩
  · exact .inl ⟨'r', by decide, rfl, rfl⟩
  · exact .inl ⟨'t', by decide, rfl, rfl⟩
  · next hquote hbackslash _ _ _ _ _ =>
    by_cases hc : c.toNat < 0x20
    · exact .inr (.inl ⟨hc, if_pos hc⟩)
    · exact .inr (.inr ⟨hc, hquote, hbackslash, if_neg hc⟩)

end Json

/-- What `fourHexDigits` gives for a small number is read back by `hexNumber?` as that number. -/
theorem hexNumber?_fourHexDigits : ∀ n < 0x20, hexNumber? (fourHexDigits n) = some n := by decide

/-- None of the digits that `fourHexDigits` gives ends a string. -/
theorem all_fourHexDigits :
    ∀ n < 0x20, (fourHexDigits n).all (fun d => d ≠ '"' ∧ d ≠ '\\') = true := by decide

namespace JsonToken

/-- A letter other than `u` after a backslash stands for a character, as `escaped?` has it. -/
theorem stringUnits?_letter {e : Char} (he : e ≠ 'u') (rest : List Char) :
    stringUnits? ('\\' :: e :: rest) = (do
      let c ← escaped? e
      return .char c :: (← stringUnits? rest)) := by
  rw [stringUnits?]
  intro _ _ _ _ _ hu _
  exact he hu

/-- A character that is not escaped stands for itself in `stringUnits?`. -/
theorem stringUnits?_plain {c : Char} (hc : ¬ c.toNat < 0x20) (hbackslash : c ≠ '\\')
    (rest : List Char) : stringUnits? (c :: rest) = (stringUnits? rest).map (.char c :: ·) := by
  rw [stringUnits?]
  · simp [hc, hbackslash]
  · intro _ _ _ _ _ hb _
    exact hbackslash hb
  · intro _ _ hb _
    exact hbackslash hb

/-- **`stringUnits?` reads what `escapeChar` writes as that character.** -/
theorem stringUnits?_escapeChar (c : Char) (rest : List Char) :
    stringUnits? (Json.escapeChar c ++ rest) = (stringUnits? rest).map (.char c :: ·) := by
  rcases Json.escapeChar_cases c with ⟨e, he, hc, heq⟩ | ⟨hc, heq⟩ | ⟨hc, -, hbackslash, heq⟩
  · rw [heq, List.cons_append, List.cons_append, List.nil_append, stringUnits?_letter he, hc]
    cases stringUnits? rest <;> rfl
  · -- The number is that of a control character, and so of no half of a surrogate pair.
    have hnumber := hexNumber?_fourHexDigits c.toNat hc
    have hunit : Unit16.ofNat c.toNat = .char c := by
      rw [Unit16.ofNat, if_neg (by omega), if_neg (by omega), Char.ofNat_toNat]
    rw [fourHexDigits] at hnumber
    simp only [List.map_cons, List.map_nil] at hnumber
    rw [heq, fourHexDigits]
    simp only [List.map_cons, List.map_nil, List.cons_append, List.nil_append, stringUnits?, hnumber]
    cases stringUnits? rest with
    | none => rfl
    | some units => simp [hunit]
  · rw [heq, List.cons_append, List.nil_append]
    exact stringUnits?_plain hc hbackslash rest

/-- `stringUnits?` reads an escaped text as its characters. -/
theorem stringUnits?_flatMap_escapeChar (text : List Char) :
    stringUnits? (text.flatMap Json.escapeChar) = some (text.map .char) := by
  induction text with
  | nil => rfl
  | cons c rest ih =>
    rw [List.flatMap_cons, stringUnits?_escapeChar, ih]
    rfl

/-- Characters are no halves of surrogate pairs, and `joinSurrogates?` leaves them as they are. -/
theorem joinSurrogates?_map_char (text : List Char) :
    joinSurrogates? (text.map .char) = some text := by
  induction text with
  | nil => rfl
  | cons c rest ih =>
    rw [List.map_cons, joinSurrogates?, ih]
    rfl

/-- **`ofQuoted` reads what was written between quotes as the string.** -/
theorem ofQuoted_flatMap_escapeChar (text : List Char) :
    ofQuoted (text.flatMap Json.escapeChar) = .text (some text) := by
  rw [ofQuoted, stringUnits?_flatMap_escapeChar]
  exact congrArg JsonToken.text (joinSurrogates?_map_char text)

/-! ## Scanning -/

variable {c : Char} {rest read text text' : List Char} {t : JsonToken} {tokens tokens' : List JsonToken}

/-- In the state `between` blanks are passed over. -/
theorem scanFrom_between_of_isBlank (hc : isBlank c = true) :
    scanFrom .between (c :: rest) = scanFrom .between rest := by
  rw [scanFrom, if_pos hc]

/-- A character that is `punctuation?` is neither a blank nor a quote. -/
theorem isBlank_of_punctuation? (ht : punctuation? c = some t) : isBlank c = false ∧ c ≠ '"' := by
  unfold punctuation? at ht
  split at ht
  all_goals first
    | exact ⟨by decide, by decide⟩
    | exact absurd ht (by simp)

/-- In the state `between` punctuation is a token of its own. -/
theorem scanFrom_between_of_punctuation? (ht : punctuation? c = some t) :
    scanFrom .between (c :: rest) = t :: scanFrom .between rest := by
  obtain ⟨hblank, hquote⟩ := isBlank_of_punctuation? ht
  simp only [scanFrom, hblank, ht, Bool.false_eq_true, if_false, beq_iff_eq, hquote]

/-- `Delimited rest`: a word ends before such a text, because at its beginning there is a blank or
punctuation, if anything. -/
def Delimited (rest : List Char) : Prop :=
  ∀ c ∈ rest.head?, isBlank c = true ∨ (punctuation? c).isSome = true

theorem delimited_nil : Delimited [] := fun _ hc => absurd hc (by simp)

theorem delimited_of_isBlank (hc : isBlank c = true) : Delimited (c :: rest) :=
  fun _ hd => Option.some.inj hd ▸ .inl hc

theorem delimited_of_punctuation? (ht : punctuation? c = some t) : Delimited (c :: rest) :=
  fun _ hd => Option.some.inj hd ▸ .inr (ht ▸ rfl)

/-- **A word gives its `wordTokens` wherever it ends**, that is before what is `Delimited`. -/
theorem scanFrom_word_of_delimited (hrest : Delimited rest) :
    scanFrom (.word read) rest = wordTokens read.reverse ++ scanFrom .between rest := by
  cases rest with
  | nil => simp only [scanFrom, List.append_nil]
  | cons c rest =>
    rcases hrest c rfl with hblank | hsome
    · rw [scanFrom_between_of_isBlank hblank, scanFrom, if_pos hblank]
    · obtain ⟨t, ht⟩ := Option.isSome_iff_exists.1 hsome
      obtain ⟨hblank, hquote⟩ := isBlank_of_punctuation? ht
      rw [scanFrom_between_of_punctuation? ht]
      simp only [scanFrom, hblank, ht, Bool.false_eq_true, if_false, beq_iff_eq, hquote]

/-- In the state `quotes` characters other than quotes and backslashes do not end a string. -/
theorem scanFrom_quotes_append (hplain : ∀ c ∈ text, c ≠ '"' ∧ c ≠ '\\') :
    scanFrom (.quotes read) (text ++ rest) = scanFrom (.quotes (text.reverse ++ read)) rest := by
  induction text generalizing read with
  | nil => rfl
  | cons c text ih =>
    obtain ⟨⟨hquote, hbackslash⟩, htext⟩ := List.forall_mem_cons.1 hplain
    have hc : scanFrom (.quotes read) (c :: (text ++ rest)) =
        scanFrom (.quotes (c :: read)) (text ++ rest) := by
      simp only [scanFrom, beq_iff_eq, hquote, hbackslash, if_false]
    rw [List.cons_append, hc, ih htext, List.reverse_cons, List.append_assoc]
    rfl

/-- **What `escapeChar` writes does not end a string.** -/
theorem scanFrom_quotes_escapeChar (c : Char) :
    scanFrom (.quotes read) (Json.escapeChar c ++ rest) =
      scanFrom (.quotes ((Json.escapeChar c).reverse ++ read)) rest := by
  rcases Json.escapeChar_cases c with ⟨e, -, -, heq⟩ | ⟨hc, heq⟩ | ⟨-, hquote, hbackslash, heq⟩
  · rw [heq]
    rfl
  · -- The backslash and the letter are passed over together, and then the digits.
    have hdigits : ∀ d ∈ fourHexDigits c.toNat, d ≠ '"' ∧ d ≠ '\\' := fun d hd =>
      of_decide_eq_true (List.all_eq_true.1 (all_fourHexDigits c.toNat hc) d hd)
    have hstart : scanFrom (.quotes read) ('\\' :: 'u' :: (fourHexDigits c.toNat ++ rest)) =
        scanFrom (.quotes ('u' :: '\\' :: read)) (fourHexDigits c.toNat ++ rest) := rfl
    rw [heq, List.cons_append, List.cons_append, hstart, scanFrom_quotes_append hdigits]
    simp
  · rw [heq]
    refine scanFrom_quotes_append fun d hd => ?_
    rw [List.mem_singleton.1 hd]
    exact ⟨hquote, hbackslash⟩

/-- An escaped text does not end a string, character by character with
`scanFrom_quotes_escapeChar`. -/
theorem scanFrom_quotes_flatMap_escapeChar (text : List Char) :
    scanFrom (.quotes read) (text.flatMap Json.escapeChar ++ rest) =
      scanFrom (.quotes ((text.flatMap Json.escapeChar).reverse ++ read)) rest := by
  induction text generalizing read with
  | nil => rfl
  | cons c text ih =>
    rw [List.flatMap_cons, List.append_assoc, scanFrom_quotes_escapeChar, ih, List.reverse_append,
      List.append_assoc]

/-! ## Texts that are cut into tokens -/

/-- **`Scans text tokens`**: the `text` is cut into the `tokens` wherever a word may end after
it. -/
def Scans (text : List Char) (tokens : List JsonToken) : Prop :=
  ∀ rest, Delimited rest → scanFrom .between (text ++ rest) = tokens ++ scanFrom .between rest

namespace Scans

/-- The empty text `Scans` as no tokens. -/
theorem nil : Scans [] [] := fun _ _ => rfl

/-- Punctuation in front of a text is a token `t` in front of its `tokens`. -/
theorem punctuation (ht : punctuation? c = some t) (h : Scans text tokens) :
    Scans (c :: text) (t :: tokens) := by
  intro rest hrest
  rw [List.cons_append, scanFrom_between_of_punctuation? ht, h rest hrest, List.cons_append]

/-- For `Scans`, blanks in front of a text make no difference. -/
theorem blanks {blank : List Char} (hblank : ∀ c ∈ blank, isBlank c = true)
    (h : Scans text tokens) : Scans (blank ++ text) tokens := by
  intro rest hrest
  induction blank with
  | nil => exact h rest hrest
  | cons c blank ih =>
    obtain ⟨hc, hblank⟩ := List.forall_mem_cons.1 hblank
    rw [List.cons_append, List.cons_append, scanFrom_between_of_isBlank hc]
    exact ih hblank

/-- **One text after another** is cut into the tokens of both, if what comes second is
`Delimited`. -/
theorem append (h : Scans text tokens) (h' : Scans text' tokens') (hdelimited : Delimited text') :
    Scans (text ++ text') (tokens ++ tokens') := by
  intro rest hrest
  have hends : Delimited (text' ++ rest) := by
    cases text' with
    | nil => exact hrest
    | cons c text' => exact hdelimited
  rw [List.append_assoc, h _ hends, h' rest hrest, List.append_assoc]

/-- A text through which `scanFrom` goes as a word is cut into its `wordTokens`. -/
theorem word (hword : ∀ rest, scanFrom .between (text ++ rest) = scanFrom (.word text.reverse) rest) :
    Scans text (wordTokens text) := by
  intro rest hrest
  rw [hword, scanFrom_word_of_delimited hrest, List.reverse_reverse]

/-- **Texts with commas between them**, and `blank` after the commas, are cut into their `tokens`
with `comma` between them. -/
theorem intercalate {blank : List Char} {texts : List (List Char)} {tokens : List (List JsonToken)}
    (hblank : ∀ c ∈ blank, isBlank c = true) (h : List.Forall₂ Scans texts tokens) :
    Scans ((',' :: blank).intercalate texts) ([.comma].intercalate tokens) := by
  induction h with
  | nil => exact nil
  | @cons text ts texts tokens h hrest ih =>
    cases hrest with
    | nil =>
      rw [List.intercalate_singleton, List.intercalate_singleton]
      exact h
    | cons h' hrest' =>
      rw [List.intercalate_cons_cons, List.intercalate_cons_cons, List.append_assoc,
        List.append_assoc]
      -- The comma ends the first text.
      exact h.append (.punctuation rfl (ih.blanks hblank)) (delimited_of_punctuation? rfl)

/-- What stands between brackets is cut into its `tokens` between those of the brackets. -/
theorem bracketed {a z : Char} {u : JsonToken} (hopen : punctuation? a = some t)
    (hclose : punctuation? z = some u) (h : Scans text tokens) :
    Scans (a :: text ++ [z]) (t :: tokens ++ [u]) :=
  .punctuation hopen (h.append (.punctuation hclose .nil) (delimited_of_punctuation? hclose))

/-- A whole text that `Scans` as `tokens` is cut into them by `scan`. -/
theorem scan_eq {text : String} (h : Scans text.toList tokens) : scan text = tokens := by
  have hall := h [] delimited_nil
  rwa [List.append_nil, scanFrom, List.append_nil] at hall

end Scans

/-- **What `stringText` writes is one token**, whatever follows. -/
theorem scans_stringText (s : String) : Scans (Json.stringText s).toList [.text (some s.toList)] := by
  intro rest _
  rw [Json.stringText, String.toList_ofList, List.append_assoc, List.cons_append]
  have hopen : ∀ l, scanFrom .between ('"' :: l) = scanFrom (.quotes []) l := fun _ => rfl
  rw [hopen, scanFrom_quotes_flatMap_escapeChar, List.append_nil]
  have hclose : ∀ read, scanFrom (.quotes read) ('"' :: rest) =
      ofQuoted read.reverse :: scanFrom .between rest := fun _ => rfl
  rw [List.singleton_append, hclose, List.reverse_reverse, ofQuoted_flatMap_escapeChar]
  rfl

/-- The name of a member and its value are cut into their tokens with a `colon` between them. -/
theorem scans_member {blank : List Char} (key : String)
    (hblank : ∀ c ∈ blank, isBlank c = true) (h : Scans text tokens) :
    Scans ((Json.stringText key).toList ++ ':' :: (blank ++ text))
      (.text (some key.toList) :: .colon :: tokens) :=
  (scans_stringText key).append (.punctuation rfl (h.blanks hblank)) (delimited_of_punctuation? rfl)

end JsonToken

namespace Json

open JsonToken (Scans isBlank)

/-- The word `null` is cut into one token, like those for truth values below. -/
theorem scans_null : Scans "null".toList [.scalar .null] := .word fun _ => rfl

theorem scans_boolText (b : Bool) : Scans (boolText b).toList [.scalar (.bool b)] := by
  cases b with
  | true => exact .word fun _ => rfl
  | false => exact .word fun _ => rfl

/-- **What `compact` writes is cut into the tokens of the value.** -/
theorem scans_compact (v : Json) : Scans v.compact.toList v.tokens := by
  -- Arrays and objects are scanned piece by piece, each piece by the hypothesis on its value.
  induction v using nested_induction with
  | null => exact scans_null
  | bool b => exact scans_boolText b
  | string s => exact JsonToken.scans_stringText s
  | array items ih =>
    have hitems : List.Forall₂ Scans ((compactItems items).map String.toList) (itemTokens items) := by
      rw [compactItems_eq_map, itemTokens_eq_map, List.map_map]
      exact forall₂_map_map ih
    have htext : (array items).compact.toList =
        '[' :: [','].intercalate ((compactItems items).map String.toList) ++ [']'] := by
      simp [compact, joined]
    rw [htext, tokens]
    exact .bracketed rfl rfl (.intercalate (by simp) hitems)
  | object members ih =>
    have hmembers : List.Forall₂ Scans ((compactMembers members).map String.toList)
        (memberTokens members) := by
      rw [compactMembers_eq_map, memberTokens_eq_map, List.map_map]
      refine forall₂_map_map fun e he => ?_
      simpa using JsonToken.scans_member e.1 (List.forall_mem_nil _) (ih e he)
    have htext : (object members).compact.toList =
        '{' :: [','].intercalate ((compactMembers members).map String.toList) ++ ['}'] := by
      simp [compact, joined]
    rw [htext, tokens]
    exact .bracketed rfl rfl (.intercalate (by simp) hmembers)

/-- A list that is put on lines of its own by `block` is cut into its tokens between those of the
brackets. -/
theorem scans_block {a z outer inner : String} {x y : Char} {t u : JsonToken} {lines : List String}
    {tokens : List (List JsonToken)} (ha : a.toList = [x]) (hz : z.toList = [y])
    (hopen : JsonToken.punctuation? x = some t) (hclose : JsonToken.punctuation? y = some u)
    (houter : ∀ c ∈ outer.toList, isBlank c = true) (hinner : ∀ c ∈ inner.toList, isBlank c = true)
    (h : List.Forall₂ Scans (lines.map String.toList) tokens) :
    Scans (block a z outer inner lines).toList (t :: [.comma].intercalate tokens ++ [u]) := by
  cases lines with
  | nil =>
    cases h
    rw [block, String.toList_append, ha, hz]
    exact .bracketed hopen hclose .nil
  | cons line lines =>
    have htext : (block a z outer inner (line :: lines)).toList =
        x :: (('\n' :: inner.toList) ++ (',' :: ('\n' :: inner.toList)).intercalate
          ((line :: lines).map String.toList) ++ (('\n' :: outer.toList) ++ [y])) := by
      simp [block, ha, hz]
    have hblank : ∀ {margin : String}, (∀ c ∈ margin.toList, isBlank c = true) →
        ∀ c ∈ '\n' :: margin.toList, isBlank c = true := fun hmargin =>
      List.forall_mem_cons.2 ⟨by decide, hmargin⟩
    rw [htext]
    have hlines := (Scans.intercalate (hblank hinner) h).blanks (hblank hinner)
    have hend := (Scans.punctuation hclose .nil).blanks (hblank houter)
    -- The line break before the closing bracket ends the last line.
    exact .punctuation hopen (hlines.append hend (JsonToken.delimited_of_isBlank rfl))

/-- A `margin` stays blank as it is indented. -/
theorem forall_isBlank_indent {margin : String} (hmargin : ∀ c ∈ margin.toList, isBlank c = true) :
    ∀ c ∈ (margin ++ "  ").toList, isBlank c = true := by
  have hindent : "  ".toList = [' ', ' '] := rfl
  rw [String.toList_append, List.forall_mem_append, hindent]
  exact ⟨hmargin, List.forall_mem_cons.2 ⟨rfl, List.forall_mem_singleton.2 rfl⟩⟩

/-- **What `prettyFrom` writes over several lines is cut into the tokens of the value.** -/
theorem scans_prettyFrom (v : Json) (margin : String)
    (hmargin : ∀ c ∈ margin.toList, isBlank c = true) :
    Scans (prettyFrom margin v).toList v.tokens := by
  -- Inner values have wider margins, hence a hypothesis for every margin.
  induction v using nested_induction generalizing margin with
  | null => exact scans_null
  | bool b => exact scans_boolText b
  | string s => exact JsonToken.scans_stringText s
  | array items ih =>
    have hinner := forall_isBlank_indent hmargin
    have hitems : List.Forall₂ Scans ((prettyItems (margin ++ "  ") items).map String.toList)
        (itemTokens items) := by
      rw [prettyItems_eq_map, itemTokens_eq_map, List.map_map]
      exact forall₂_map_map fun v hv => ih v hv (margin ++ "  ") hinner
    rw [prettyFrom, tokens]
    exact scans_block rfl rfl rfl rfl hmargin hinner hitems
  | object members ih =>
    have hinner := forall_isBlank_indent hmargin
    have hmembers : List.Forall₂ Scans ((prettyMembers (margin ++ "  ") members).map String.toList)
        (memberTokens members) := by
      rw [prettyMembers_eq_map, memberTokens_eq_map, List.map_map]
      refine forall₂_map_map fun e he => ?_
      have hblank : ∀ c ∈ [' '], isBlank c = true := List.forall_mem_singleton.2 rfl
      simpa using JsonToken.scans_member e.1 hblank (ih e he (margin ++ "  ") hinner)
    rw [prettyFrom, tokens]
    exact scans_block rfl rfl rfl rfl hmargin hinner hmembers

/-- Both layouts of a value, `compact` and `pretty`, are cut into its `tokens`. -/
theorem scan_compact (v : Json) : JsonToken.scan v.compact = v.tokens :=
  v.scans_compact.scan_eq

theorem scan_pretty (v : Json) : JsonToken.scan v.pretty = v.tokens := by
  have hmargin : ∀ c ∈ "".toList, isBlank c = true := by simp
  exact (v.scans_prettyFrom "" hmargin).scan_eq

end Json

/-! ## Taking the tokens -/

namespace JsonReader

/-- **`Takes tokens n`**: the machine takes the `tokens` as the node `n` wherever it expects a
value. -/
def Takes (tokens : List JsonToken) (n : Node) : Prop :=
  ∀ stack first rest, (tokens ++ rest).foldl step { stack, expects := .value first } =
    rest.foldl step (finish stack n)

/-- `TakesMember tokens member`: the machine takes the `tokens` as a `member` of an object. -/
def TakesMember (tokens : List JsonToken) (member : Node × Node) : Prop :=
  ∃ key value, tokens = .text (some key) :: .colon :: value ∧
    member.1 = .string (String.ofList key) ∧ Takes value member.2

variable {tokens : List (List JsonToken)} {nodes : List Node} {members : List (Node × Node)}

/-- **Items with `comma` between them** are taken one after the other, until the array is closed. -/
theorem foldl_step_items (h : List.Forall₂ Takes tokens nodes) (hne : tokens ≠ [])
    (stack : List OpenNode) (items : List Node) (first : Bool) (rest : List JsonToken) :
    ([.comma].intercalate tokens ++ .closeArray :: rest).foldl step
        { stack := .array items :: stack, expects := .value first } =
      rest.foldl step (finish stack (.array (items.reverse ++ nodes))) := by
  -- Nodes are pushed onto `items` one by one, so the hypothesis is for every such list.
  induction h generalizing items first with
  | nil => exact absurd rfl hne
  | @cons ts n tokens nodes h hrest ih =>
    have hitem : ∀ l, (ts ++ l).foldl step { stack := .array items :: stack, expects := .value first } =
        l.foldl step { stack, expects := .nextItem (n :: items) } := fun l => h _ _ l
    have hitems : (n :: items).reverse ++ nodes = items.reverse ++ n :: nodes := by simp
    cases hrest with
    | nil =>
      rw [List.intercalate_singleton, hitem, ← hitems, List.append_nil]
      rfl
    | cons h' hrest' =>
      rw [List.intercalate_cons_cons, List.append_assoc, List.append_assoc, hitem, ← hitems]
      exact ih (List.cons_ne_nil _ _) (n :: items) false

/-- **The machine `Takes` an array as that of what its items are taken as.** -/
theorem takes_array (h : List.Forall₂ Takes tokens nodes) :
    Takes (.openArray :: [.comma].intercalate tokens ++ [.closeArray]) (.array nodes) := by
  intro stack first rest
  cases h with
  | nil => rfl
  | cons h hrest =>
    rw [List.append_assoc]
    exact foldl_step_items (.cons h hrest) (List.cons_ne_nil _ _) stack [] true rest

/-- **Members with `comma` between them** are taken one after the other, until the object is
closed. -/
theorem foldl_step_members (h : List.Forall₂ TakesMember tokens members) (hne : tokens ≠ [])
    (stack : List OpenNode) (read : List (Node × Node)) (first : Bool) (rest : List JsonToken) :
    ([.comma].intercalate tokens ++ .closeObject :: rest).foldl step
        { stack, expects := .key read first } =
      rest.foldl step (finish stack (.object (read.reverse ++ members))) := by
  -- Members are pushed onto `read` one by one, so the hypothesis is for every such list.
  induction h generalizing read first with
  | nil => exact absurd rfl hne
  | @cons ts e tokens members h hrest ih =>
    obtain ⟨key, value, rfl, hkey, hvalue⟩ := h
    have hmember : ∀ l, (.text (some key) :: .colon :: value ++ l).foldl step
        { stack, expects := .key read first } =
          l.foldl step { stack, expects := .nextMember (e :: read) } := by
      intro l
      have hopen : (.text (some key) :: .colon :: value ++ l).foldl step
          { stack, expects := .key read first } =
            (value ++ l).foldl step { stack := .object read e.1 :: stack, expects := .value false } := by
        rw [hkey]
        rfl
      rw [hopen, hvalue]
      rfl
    have hmembers : (e :: read).reverse ++ members = read.reverse ++ e :: members := by simp
    cases hrest with
    | nil =>
      rw [List.intercalate_singleton, hmember, ← hmembers, List.append_nil]
      rfl
    | cons h' hrest' =>
      rw [List.intercalate_cons_cons, List.append_assoc, List.append_assoc, hmember, ← hmembers]
      exact ih (List.cons_ne_nil _ _) (e :: read) false

/-- **The machine `Takes` an object as that of what its members are taken as.** -/
theorem takes_object (h : List.Forall₂ TakesMember tokens members) :
    Takes (.openObject :: [.comma].intercalate tokens ++ [.closeObject]) (.object members) := by
  intro stack first rest
  cases h with
  | nil => rfl
  | cons h hrest =>
    rw [List.append_assoc]
    exact foldl_step_members (.cons h hrest) (List.cons_ne_nil _ _) stack [] true rest

/-- **The machine `Takes` the tokens of a value as `Node.ofJson` of it.** -/
theorem takes_tokens (v : Json) : Takes v.tokens (Node.ofJson v) := by
  induction v using Json.nested_induction with
  | null => exact fun _ _ _ => rfl
  | bool b => exact fun _ _ _ => rfl
  | string s =>
    intro stack first rest
    have hnode : stringNode (some s.toList) = .string s :=
      congrArg Node.string (String.ofList_toList)
    rw [Node.ofJson, ← hnode]
    rfl
  | array items ih =>
    rw [Json.tokens, Json.itemTokens_eq_map, Node.ofJson, Node.ofItems_eq_map]
    exact takes_array (forall₂_map_map ih)
  | object members ih =>
    rw [Json.tokens, Json.memberTokens_eq_map, Node.ofJson, Node.ofMembers_eq_map]
    refine takes_object (forall₂_map_map fun e he => ?_)
    exact ⟨e.1.toList, e.2.tokens, rfl, congrArg Node.string String.ofList_toList.symm, ih e he⟩

/-- A text that `scan` cuts into the tokens of a value is read as that value, with nothing left
over. -/
theorem read_of_scan_eq {text : String} {v : Json} (h : JsonToken.scan text = v.tokens) :
    read text = ⟨Node.ofJson v, false⟩ := by
  have hrun : v.tokens.foldl step {} = { expects := .nothing (Node.ofJson v) } := by
    have htakes := takes_tokens v [] false []
    rwa [List.append_nil] at htakes
  rw [read, h, hrun]
  rfl

/-- **`read` gives back what `compact` wrote**, and what `pretty` wrote below. -/
theorem read_compact (v : Json) : read v.compact = ⟨Node.ofJson v, false⟩ :=
  read_of_scan_eq v.scan_compact

theorem read_pretty (v : Json) : read v.pretty = ⟨Node.ofJson v, false⟩ :=
  read_of_scan_eq v.scan_pretty

end JsonReader

end AccessorSchema
