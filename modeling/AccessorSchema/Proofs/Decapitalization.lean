import AccessorSchema.Proofs.LetterCase

/-!
# Property names are their own names

A residue and the property name it gives differ in the first character at most, and the name of a name is the
name itself. That is not plain from the rule: a letter that has been lowered is read again, and it no longer
counts as the capital that it was.

* **`LetterCase.lowercase_lowercase`** — a lowercase form has no other lowercase form;
* **`nameInitial_eq_self_iff`** — which first characters stay; those of names do;
* **`StartsWithTwoCapitals`** — the residues that the rule keeps as they are;
* **`decapitalize_eq_self_iff`** — which residues are their own names;
* **`decapitalize_stable`** — what a name has in common with its residue, and that it is its own name.
-/

namespace AccessorSchema

namespace LetterCase

/-- No moved run of `lowercaseShifts` has a code point in common with a run of the table. -/
theorem shift_apart_runs : (lowercaseShifts.all fun e => lowercaseShifts.all fun e' =>
    (e.1.shift e.2).apart e'.1) = true := by
  decide +kernel

/-- `lowercase (Char.ofNat n) = Char.ofNat n` if no run of the table contains `n`. -/
theorem lowercase_ofNat {n : Nat} (h : ∀ e ∈ lowercaseShifts, e.1.contains n = false) :
    lowercase (Char.ofNat n) = Char.ofNat n := by
  have hnone : lowercaseShifts.find? (·.1.contains (Char.ofNat n).toNat) = none := by
    rw [toNat_ofNat]
    by_cases hv : n.isValidChar
    · rw [if_pos hv, List.find?_eq_none]
      intro e he
      simp [h e he]
    · rw [if_neg hv]
      decide +kernel
  rw [lowercase, hnone]

/-- **`lowercase (lowercase c) = lowercase c`**: a lowercase form has no other lowercase form. -/
theorem lowercase_lowercase (c : Char) : lowercase (lowercase c) = lowercase c := by
  by_cases h : lowercase c = c
  · rw [h, h]
  · obtain ⟨e, he, hmoved, hform⟩ := exists_shift_of_lowercase_ne h
    have hapart := List.all_eq_true.1 shift_apart_runs e he
    rw [hform]
    apply lowercase_ofNat
    intro e' he'
    exact Run.contains_eq_false_of_apart (List.all_eq_true.1 hapart e' he') hmoved

end LetterCase

open LetterCase

/-! ## First characters -/

/-- `nameInitial c t = c` for a capital `c` before a capital. -/
theorem nameInitial_of_capitals {c : Char} {t : List Char} (hc : isUppercase c = true)
    (ht : startsWithCapital t = true) : nameInitial c t = c := by
  rw [nameInitial, hc, ht]
  rfl

/-- `nameInitial c t = lowercase c` for any other character. -/
theorem nameInitial_of_not_capitals {c : Char} {t : List Char}
    (h : ¬ (isUppercase c = true ∧ startsWithCapital t = true)) : nameInitial c t = lowercase c := by
  apply nameInitial_eq_lowercase
  intro ht
  simpa [ht] using h

/-- **`nameInitial c t = c`** exactly for a capital before a capital, and for a `c` that is its own
lowercase form. -/
theorem nameInitial_eq_self_iff {c : Char} {t : List Char} :
    nameInitial c t = c ↔ (isUppercase c = true ∧ startsWithCapital t = true) ∨ lowercase c = c := by
  by_cases hcapitals : isUppercase c = true ∧ startsWithCapital t = true
  · exact iff_of_true (nameInitial_of_capitals hcapitals.1 hcapitals.2) (.inl hcapitals)
  · rw [nameInitial_of_not_capitals hcapitals, or_iff_right hcapitals]

/-- **`nameInitial` is idempotent**: the first character of a name stays. -/
theorem nameInitial_nameInitial (c : Char) (t : List Char) :
    nameInitial (nameInitial c t) t = nameInitial c t := by
  rw [nameInitial_eq_self_iff]
  by_cases hcapitals : isUppercase c = true ∧ startsWithCapital t = true
  · left
    rwa [nameInitial_of_capitals hcapitals.1 hcapitals.2]
  · -- What has been lowered has no other lowercase form, so it does not matter by which case it is read again.
    right
    rw [nameInitial_of_not_capitals hcapitals, lowercase_lowercase]

/-! ## Residues -/

/-- **`residue` starts with two capitals.** -/
def StartsWithTwoCapitals (residue : String) : Prop :=
  ∃ c d rest, residue.toList = c :: d :: rest ∧ isUppercase c = true ∧ isUppercase d = true

theorem startsWithTwoCapitals_cons_iff {c : Char} {t : List Char} :
    StartsWithTwoCapitals (String.ofList (c :: t)) ↔
      isUppercase c = true ∧ startsWithCapital t = true := by
  constructor
  · rintro ⟨c', d, rest, heq, hc, hd⟩
    rw [String.toList_ofList, List.cons.injEq] at heq
    obtain ⟨rfl, rfl⟩ := heq
    exact ⟨hc, hd⟩
  · rintro ⟨hc, ht⟩
    cases t with
    | nil => exact absurd ht (by decide)
    | cons d rest => exact ⟨c, d, rest, String.toList_ofList, hc, ht⟩

/-- The first character of `decapitalize residue` is the lowercase form of that of `residue`, unless
this starts with two capitals. -/
theorem head?_decapitalize {residue : String} (h : ¬ StartsWithTwoCapitals residue) :
    (decapitalize residue).toList.head? = residue.toList.head?.map lowercase := by
  rcases eq_empty_or_exists_cons residue with rfl | ⟨c, t, rfl⟩
  · rfl
  · rw [startsWithTwoCapitals_cons_iff] at h
    rw [decapitalize_cons, nameInitial_of_not_capitals h]
    simp

/-- **`decapitalize residue = residue`** exactly if `residue` starts with two capitals, or with a
character that is its own lowercase form. -/
theorem decapitalize_eq_self_iff {residue : String} :
    decapitalize residue = residue ↔
      StartsWithTwoCapitals residue ∨ ∀ c ∈ residue.toList.head?, lowercase c = c := by
  rcases eq_empty_or_exists_cons residue with rfl | ⟨c, t, rfl⟩
  · exact iff_of_true rfl (.inr nofun)
  · rw [decapitalize_cons, String.ofList_inj, List.cons.injEq, and_iff_left rfl,
      nameInitial_eq_self_iff, startsWithTwoCapitals_cons_iff, String.toList_ofList]
    simp

/-- `decapitalize residue` goes on like `residue`. -/
theorem tail_decapitalize (residue : String) :
    (decapitalize residue).toList.tail = residue.toList.tail := by
  rcases eq_empty_or_exists_cons residue with rfl | ⟨c, t, rfl⟩
  · rfl
  · rw [decapitalize_cons, String.toList_ofList, String.toList_ofList, List.tail_cons, List.tail_cons]

/-- `decapitalize residue` has as many characters as `residue`. -/
theorem length_decapitalize (residue : String) : (decapitalize residue).length = residue.length := by
  rcases eq_empty_or_exists_cons residue with rfl | ⟨c, t, rfl⟩
  · rfl
  · rw [decapitalize_cons, String.length_ofList, String.length_ofList, List.length_cons, List.length_cons]

/-- **`decapitalize` is idempotent**: a name is its own name. -/
theorem decapitalize_decapitalize (residue : String) :
    decapitalize (decapitalize residue) = decapitalize residue := by
  rcases eq_empty_or_exists_cons residue with rfl | ⟨c, t, rfl⟩
  · rfl
  · rw [decapitalize_cons, decapitalize_cons, nameInitial_nameInitial]

/-- **Names are stable, and do not grow.** `decapitalize residue` has as many characters as
`residue`, and those after the first are the same. A residue is its own name exactly if it starts
with two capitals or its first character has no other lowercase form; unless it starts with two
capitals, the first character takes that form (`lowercase`). The name is its own name. -/
theorem decapitalize_stable (residue : String) :
    (decapitalize residue).length = residue.length ∧
      (decapitalize residue).toList.tail = residue.toList.tail ∧
      (decapitalize residue = residue ↔
        StartsWithTwoCapitals residue ∨ ∀ c ∈ residue.toList.head?, lowercase c = c) ∧
      (¬ StartsWithTwoCapitals residue →
        (decapitalize residue).toList.head? = residue.toList.head?.map lowercase) ∧
      decapitalize (decapitalize residue) = decapitalize residue :=
  ⟨length_decapitalize residue, tail_decapitalize residue, decapitalize_eq_self_iff, head?_decapitalize,
    decapitalize_decapitalize residue⟩

/-- **A titlecase letter before a capital is lowered by `decapitalize`**, for it is no capital; a
capital before a capital is not. -/
theorem titlecaseLetter_lowered :
    (¬ StartsWithTwoCapitals "\u01C5A" ∧ (decapitalize "\u01C5A").toList.head? = some '\u01C6') ∧
      StartsWithTwoCapitals "URL" ∧ decapitalize "URL" = "URL" := by
  have htitlecase : ¬ StartsWithTwoCapitals (String.ofList ['\u01C5', 'A']) := by
    rw [startsWithTwoCapitals_cons_iff]
    decide +kernel
  have hcapitals : StartsWithTwoCapitals (String.ofList ['U', 'R', 'L']) := by
    rw [startsWithTwoCapitals_cons_iff]
    decide +kernel
  refine ⟨⟨htitlecase, ?_⟩, hcapitals, (decapitalize_stable "URL").2.2.1.2 (.inl hcapitals)⟩
  rw [(decapitalize_stable "\u01C5A").2.2.2.1 htitlecase]
  decide +kernel

/-- The lowercase form of `İ` takes two characters, so the letter stays. -/
example : decapitalize "\u0130d" = "\u0130d" := by cbv

end AccessorSchema
