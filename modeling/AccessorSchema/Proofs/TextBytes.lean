import AccessorSchema.Proofs.NameOrder

/-!
# Texts as bytes

A text is stored as the bytes of its UTF-8 form. A character takes one to four of them, so a number of
bytes may point into the middle of a character, and it is not plain that texts compare as their bytes do.

* **`exists_eq_append_of_textBytes`** — where the bytes of a text begin with those of another, the text is
  that one with a text after it: the place between them is no place inside a character;
* **`utf8EncodeChar_lt`** — a character before another has smaller bytes, whatever follows;
* **`textBytes_lt_iff`** — texts are compared by their bytes.
-/

namespace AccessorSchema

/-- `textBytes s`: the bytes of the text `s` in UTF-8. -/
def textBytes (s : String) : List UInt8 := s.toByteArray.data.toList

/-! ## Starts of texts -/

/-- The `textBytes` of a text are those of its characters. -/
theorem textBytes_eq_flatMap (s : String) : textBytes s = s.toList.flatMap String.utf8EncodeChar := by
  have hencode : s.toByteArray = s.toList.utf8Encode := by
    rw [← String.toByteArray_ofList, String.ofList_toList]
  rw [textBytes, hencode, List.utf8Encode, List.toList_data_toByteArray]

@[simp] theorem length_textBytes (s : String) : (textBytes s).length = s.utf8ByteSize := by
  rw [textBytes, Array.length_toList, ByteArray.size_data, String.size_toByteArray]

@[simp] theorem textBytes_append (s t : String) : textBytes (s ++ t) = textBytes s ++ textBytes t := by
  simp only [textBytes_eq_flatMap, String.toList_append, List.flatMap_append]

/-- Texts with the same `textBytes` are the same. -/
theorem textBytes_inj {s t : String} : textBytes s = textBytes t ↔ s = t := by
  rw [textBytes, textBytes, Array.toList_inj, ← ByteArray.ext_iff, String.toByteArray_inj]

/-- **A text whose `textBytes` begin with those of `start` goes on after it with a text.** -/
theorem exists_eq_append_of_textBytes {start name : String} {rest : List UInt8}
    (h : textBytes name = textBytes start ++ rest) :
    ∃ residue, name = start ++ residue ∧ textBytes residue = rest := by
  have hencode : start.toList.utf8Encode ++ rest.toByteArray = name.toList.utf8Encode := by
    rw [textBytes_eq_flatMap, textBytes_eq_flatMap] at h
    rw [List.utf8Encode, List.utf8Encode, h, List.toByteArray_append]
  -- The characters of the start can be read off the bytes, so the name has them first.
  obtain ⟨t, ht⟩ := List.isPrefix_of_utf8Encode_append_eq_utf8Encode _ hencode
  have hname : name = start ++ String.ofList t := by
    rw [← String.toList_inj, String.toList_append, String.toList_ofList, ht]
  refine ⟨String.ofList t, hname, ?_⟩
  rw [hname, textBytes_append] at h
  exact List.append_cancel_left h

/-! ## The order of texts -/

/-- The code point of a character is less than `0x110000`. -/
theorem codePoint_lt (c : Char) : c.val.toNat < 0x110000 := by
  rcases c.valid with hlow | ⟨-, hhigh⟩
  · exact Nat.lt_trans hlow (by decide)
  · exact hhigh

/-- Of two numbers the smaller one is smaller in the first digit to base `64` in which they
differ. -/
theorem digits_lt {m n : Nat} (h : m < n) :
    m / 262144 < n / 262144 ∨ m / 262144 = n / 262144 ∧
      (m / 4096 % 64 < n / 4096 % 64 ∨ m / 4096 % 64 = n / 4096 % 64 ∧
        (m / 64 % 64 < n / 64 % 64 ∨ m / 64 % 64 = n / 64 % 64 ∧ m % 64 < n % 64)) := by
  omega

/-- **A character before another has smaller bytes by `utf8EncodeChar`**, whatever follows them. -/
theorem utf8EncodeChar_lt {c d : Char} (h : c < d) (x y : List UInt8) :
    String.utf8EncodeChar c ++ x < String.utf8EncodeChar d ++ y := by
  have hlt : c.val.toNat < d.val.toNat := h
  have hbound : d.val.toNat < 0x110000 := codePoint_lt d
  have hdigits := digits_lt hlt
  unfold String.utf8EncodeChar
  generalize c.val.toNat = m at hlt hdigits ⊢
  generalize d.val.toNat = n at hlt hdigits hbound ⊢
  dsimp only
  -- Of different lengths the first bytes differ; of one length the bytes are the digits to base 64.
  split_ifs <;>
    simp (disch := omega) only [List.cons_append, List.nil_append, List.cons_lt_cons_iff,
      UInt8.lt_iff_toNat_lt, ← UInt8.toNat_inj, UInt8.toNat_ofNat', Nat.mod_eq_of_lt,
      Nat.add_lt_add_iff_right, Nat.add_right_cancel_iff] <;>
    omega

/-- A text before another has smaller bytes, by `utf8EncodeChar` of each character. -/
theorem flatMap_utf8EncodeChar_lt {s t : List Char} (h : s < t) :
    s.flatMap String.utf8EncodeChar < t.flatMap String.utf8EncodeChar := by
  induction h with
  | nil =>
    obtain ⟨b, bytes, hbytes⟩ := List.exists_cons_of_ne_nil String.utf8EncodeChar_ne_nil
    rw [List.flatMap_nil, List.flatMap_cons, hbytes]
    exact .nil
  | cons _ ih =>
    rw [List.flatMap_cons, List.flatMap_cons]
    exact List.append_left_lt ih
  | rel hlt =>
    rw [List.flatMap_cons, List.flatMap_cons]
    exact utf8EncodeChar_lt hlt _ _

/-- **Texts are compared by their `textBytes`.** -/
theorem textBytes_lt_iff {s t : String} : textBytes s < textBytes t ↔ compare s t = .lt := by
  rw [compare_lt_iff_lt, textBytes_eq_flatMap, textBytes_eq_flatMap]
  constructor
  · intro hbytes
    rcases lt_trichotomy s t with hlt | rfl | hgt
    · exact hlt
    · exact absurd hbytes (List.lt_irrefl _)
    · exact absurd hbytes (List.lt_asymm (flatMap_utf8EncodeChar_lt (String.lt_iff_toList_lt.1 hgt)))
  · intro hlt
    exact flatMap_utf8EncodeChar_lt (String.lt_iff_toList_lt.1 hlt)

end AccessorSchema
