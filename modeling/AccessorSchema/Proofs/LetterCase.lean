import AccessorSchema.AccessorName

/-!
# Letter case and the property names of residues

Two residues can give one property name although they differ, because some letters have one
lowercase form in common. This file says when:

* **`exists_shift_of_lowercase_ne`** — a lowercase form lies in a moved run of the table, so that what holds of
  all lowercase forms is read off the runs;
* **`isUppercase_lowercase`** — the lowercase form of a character is no capital, unless it is the
  character itself;
* **`decapitalize_cons`** — only the first character of a residue changes;
* **`decapitalize_eq_iff`** — two residues give one name exactly if they are equal or differ in two
  first letters with one lowercase form that is taken of both.
-/

namespace AccessorSchema

namespace LetterCase

/-! ## Lowercase forms -/

namespace Run

/-- `shift r s`: the run `r` moved by `s` code points. -/
def shift (r : Run) (s : Int) : Run := ⟨(r.first + s).toNat, (r.last + s).toNat, r.step⟩

/-- `apart r s`: two runs have no code point in common, because one ends before the other starts, or
they interleave, every second code point belonging to either. -/
def apart (r s : Run) : Bool :=
  Nat.blt r.last s.first || Nat.blt s.last r.first ||
    (r.step == 2 || r.first == r.last) && s.step == 2 && (r.first + s.first) % 2 == 1

/-- A code point for which `contains` holds lies between `first` and `last`, a whole number of steps
from `first`. -/
theorem contains_iff {r : Run} {n : Nat} :
    r.contains n = true ↔ r.first ≤ n ∧ n ≤ r.last ∧ (n - r.first) % r.step = 0 := by
  simp [contains, and_assoc]

/-- Runs that are `apart` have no code point in common. -/
theorem contains_eq_false_of_apart {r s : Run} (h : r.apart s = true) {n : Nat}
    (hn : r.contains n = true) : s.contains n = false := by
  obtain ⟨hfirst, hlast, hstep⟩ := contains_iff.1 hn
  rw [Bool.eq_false_iff, ne_eq, contains_iff]
  rintro ⟨hfirst', hlast', hstep'⟩
  simp only [apart, Bool.or_eq_true, Bool.and_eq_true, Nat.blt_eq, beq_iff_eq] at h
  rcases h with (h | h) | ⟨⟨h, htwo⟩, hodd⟩
  · omega
  · omega
  · rw [htwo] at hstep'
    rcases h with h | h
    · rw [h] at hstep
      omega
    · omega

/-- Moving a run by `shift` moves its code points. -/
theorem contains_shift {r : Run} {s : Int} (hs : 0 ≤ (r.first : Int) + s) {n : Nat}
    (hn : r.contains n = true) : (r.shift s).contains (n + s).toNat = true := by
  obtain ⟨hfirst, hlast, hstep⟩ := contains_iff.1 hn
  refine contains_iff.2 ⟨?_, ?_, ?_⟩
  · simp only [shift]; omega
  · simp only [shift]; omega
  · have hdist : (n + s).toNat - ((r.first : Int) + s).toNat = n - r.first := by omega
    simpa only [shift, hdist] using hstep

end Run

/-- In `lowercaseShifts`, no run is moved below zero, and none onto a run of `uppercaseRuns`. -/
theorem shift_apart : (lowercaseShifts.all fun e => decide (0 ≤ (e.1.first : Int) + e.2) &&
    uppercaseRuns.all ((e.1.shift e.2).apart ·)) = true := by
  decide +kernel

/-- **A form `lowercase c` other than `c` lies in a moved run of `lowercaseShifts`.** -/
theorem exists_shift_of_lowercase_ne {c : Char} (h : lowercase c ≠ c) :
    ∃ e ∈ lowercaseShifts, (e.1.shift e.2).contains (c.toNat + e.2).toNat = true ∧
      lowercase c = Char.ofNat (c.toNat + e.2).toNat := by
  unfold lowercase at h ⊢
  cases hfind : lowercaseShifts.find? (·.1.contains c.toNat) with
  | none =>
    rw [hfind] at h
    exact absurd rfl h
  | some e =>
    have hc : e.1.contains c.toNat = true := by simpa using List.find?_some hfind
    have he : e ∈ lowercaseShifts := List.mem_of_find?_eq_some hfind
    have hall := List.all_eq_true.1 shift_apart e he
    rw [Bool.and_eq_true, decide_eq_true_eq] at hall
    exact ⟨e, he, Run.contains_shift hall.1 hc, rfl⟩

/-- A number is the code point of `Char.ofNat n`, unless it is no code point. -/
theorem toNat_ofNat (n : Nat) : (Char.ofNat n).toNat = if n.isValidChar then n else 0 := by
  unfold Char.ofNat
  by_cases hv : n.isValidChar
  · rw [dif_pos hv, if_pos hv]
    rfl
  · rw [dif_neg hv, if_neg hv]
    rfl

/-- A code point that no run of `uppercaseRuns` contains is no capital. -/
theorem isUppercase_ofNat {n : Nat} (h : ∀ r ∈ uppercaseRuns, r.contains n = false) :
    isUppercase (Char.ofNat n) = false := by
  rw [isUppercase, toNat_ofNat]
  by_cases hv : n.isValidChar
  · rw [if_pos hv, List.any_eq_false]
    intro r hr
    simp [h r hr]
  · -- Numbers that are no code points all give the first character.
    rw [if_neg hv]
    decide +kernel

/-- **The form `lowercase c` is no capital**, unless it is `c` itself. -/
theorem isUppercase_lowercase {c : Char} (h : lowercase c ≠ c) :
    isUppercase (lowercase c) = false := by
  obtain ⟨e, he, hmoved, hform⟩ := exists_shift_of_lowercase_ne h
  have hall := List.all_eq_true.1 shift_apart e he
  rw [Bool.and_eq_true] at hall
  rw [hform]
  apply isUppercase_ofNat
  intro u hu
  exact Run.contains_eq_false_of_apart (List.all_eq_true.1 hall.2 u hu) hmoved

end LetterCase

/-! ## Property names -/

open LetterCase

/-- `startsWithCapital t`: whether the text `t` starts with a capital. -/
def startsWithCapital (t : List Char) : Bool := t.head?.any isUppercase

/-- `nameInitial c t`: what becomes of the first character `c` of a residue that goes on with
`t`. -/
def nameInitial (c : Char) (t : List Char) : Char :=
  if isUppercase c && startsWithCapital t then c else lowercase c

/-- **`decapitalize` changes the first character only**, to `nameInitial`. -/
theorem decapitalize_cons (c : Char) (t : List Char) :
    decapitalize (String.ofList (c :: t)) = String.ofList (nameInitial c t :: t) := by
  unfold decapitalize nameInitial startsWithCapital
  rw [String.toList_ofList]
  cases t with
  | nil => simp
  | cons d rest =>
    by_cases h : (isUppercase c && isUppercase d) = true
    · simp only [h, List.head?_cons, Option.any_some, if_true]
    · simp only [h, List.head?_cons, Option.any_some, Bool.false_eq_true, if_false]

/-- `nameInitial` takes the form `lowercase c` unless `c` is a capital before a capital. -/
theorem nameInitial_eq_lowercase {c : Char} {t : List Char}
    (h : startsWithCapital t = true → isUppercase c = false) : nameInitial c t = lowercase c := by
  unfold nameInitial
  cases ht : startsWithCapital t with
  | false => simp
  | true => simp [h ht]

/-- A text is `""` or has a first character. -/
theorem eq_empty_or_exists_cons (r : String) :
    r = "" ∨ ∃ c t, r = String.ofList (c :: t) := by
  cases h : r.toList with
  | nil => exact .inl (String.toList_eq_nil_iff.1 h)
  | cons c t => exact .inr ⟨c, t, by rw [← h, String.ofList_toList]⟩

/-- **`DifferInCase r r'`**: two residues differ in their first letters only, these have one
`lowercase` form, and it is taken of both: before a capital only letters that are no capitals
change. -/
def DifferInCase (r r' : String) : Prop :=
  ∃ c c' t, r = String.ofList (c :: t) ∧ r' = String.ofList (c' :: t) ∧ c ≠ c' ∧
    lowercase c = lowercase c' ∧
    (startsWithCapital t = true → isUppercase c = false ∧ isUppercase c' = false)

/-- Residues that `DifferInCase` are different. -/
theorem DifferInCase.ne {r r' : String} (h : DifferInCase r r') : r ≠ r' := by
  obtain ⟨c, c', t, rfl, rfl, hne, -, -⟩ := h
  intro heq
  rw [String.ofList_inj, List.cons.injEq] at heq
  exact hne heq.1

/-- Residues that `DifferInCase` give one name by `decapitalize`. -/
theorem DifferInCase.decapitalize_eq {r r' : String} (h : DifferInCase r r') :
    decapitalize r = decapitalize r' := by
  obtain ⟨c, c', t, rfl, rfl, -, hlower, hcapital⟩ := h
  have hc := nameInitial_eq_lowercase fun ht => (hcapital ht).1
  have hc' := nameInitial_eq_lowercase fun ht => (hcapital ht).2
  rw [decapitalize_cons, decapitalize_cons, hc, hc', hlower]

/-- A capital before a capital is not `nameInitial` of another letter. -/
theorem eq_of_nameInitial_eq {c c' : Char} {t : List Char} (ht : startsWithCapital t = true)
    (hc : isUppercase c = true) (h : nameInitial c t = nameInitial c' t) : c = c' := by
  unfold nameInitial at h
  rw [ht, hc] at h
  by_cases hc' : isUppercase c' = true
  · simpa [hc'] using h
  · have hlower : c = lowercase c' := by simpa [hc'] using h
    by_cases hself : lowercase c' = c'
    · rw [hlower, hself]
    · rw [hlower, isUppercase_lowercase hself] at hc
      exact absurd hc (by decide)

/-- **`decapitalize` gives two residues one name exactly if they are equal or `DifferInCase`.** -/
theorem decapitalize_eq_iff {r r' : String} :
    decapitalize r = decapitalize r' ↔ r = r' ∨ DifferInCase r r' := by
  constructor
  · intro h
    rcases eq_empty_or_exists_cons r with rfl | ⟨c, t, rfl⟩
    · rcases eq_empty_or_exists_cons r' with rfl | ⟨c', t', rfl⟩
      · exact .inl rfl
      · rw [decapitalize_cons, ← String.toList_inj, String.toList_ofList] at h
        exact absurd h (by simp [decapitalize])
    · rcases eq_empty_or_exists_cons r' with rfl | ⟨c', t', rfl⟩
      · rw [decapitalize_cons, ← String.toList_inj, String.toList_ofList] at h
        exact absurd h (by simp [decapitalize])
      · rw [decapitalize_cons, decapitalize_cons, String.ofList_inj, List.cons.injEq] at h
        obtain ⟨hinitial, rfl⟩ := h
        by_cases hcc : c = c'
        · exact .inl (by rw [hcc])
        · -- Neither letter is a capital before a capital, so both have taken their lowercase form.
          have hc : startsWithCapital t = true → isUppercase c = false := fun ht =>
            Bool.eq_false_iff.2 fun hc => hcc (eq_of_nameInitial_eq ht hc hinitial)
          have hc' : startsWithCapital t = true → isUppercase c' = false := fun ht =>
            Bool.eq_false_iff.2 fun hc' => hcc (eq_of_nameInitial_eq ht hc' hinitial.symm).symm
          rw [nameInitial_eq_lowercase hc, nameInitial_eq_lowercase hc'] at hinitial
          exact .inr ⟨c, c', t, rfl, rfl, hcc, hinitial, fun ht => ⟨hc ht, hc' ht⟩⟩
  · rintro (rfl | h)
    · rfl
    · exact h.decapitalize_eq

end AccessorSchema
