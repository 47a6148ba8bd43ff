import AccessorSchema.Collection.OrderedMap
import AccessorSchema.Collection.OrderedSet
import Mathlib.Data.String.Basic

/-!
# Names in the order of code points

Ordered sets and maps compare names as texts. That is the order of their code points, a text being
smaller if it has the smaller code point in the first place where two texts differ, or ends there.

* **`codePoints_lt_iff`** — texts are compared by their code points;
* `OrderedSet.pairwise_codePoints`, `OrderedMap.pairwise_codePoints` — what is listed stands in that order,
  and nothing is listed twice.
-/

namespace AccessorSchema

/-- `codePoints s`: the code points of the text `s`. -/
def codePoints (s : String) : List Nat := s.toList.map Char.toNat

/-- Lists of characters are compared by `Char.toNat`. -/
theorem map_toNat_lt_iff {s t : List Char} : s.map Char.toNat < t.map Char.toNat ↔ s < t := by
  induction s generalizing t with
  | nil => cases t <;> simp
  | cons c s ih =>
    cases t with
    | nil => simp
    | cons d t =>
      rw [List.map_cons, List.map_cons, List.cons_lt_cons_iff, List.cons_lt_cons_iff, ih, Char.toNat_inj]
      rfl

/-- **Texts are compared by their `codePoints`.** -/
theorem codePoints_lt_iff {a b : String} : codePoints a < codePoints b ↔ compare a b = .lt := by
  rw [codePoints, codePoints, map_toNat_lt_iff, ← String.lt_iff_toList_lt, compare_lt_iff_lt]

/-- The texts of an `OrderedSet` are listed by increasing `codePoints`. -/
theorem OrderedSet.pairwise_codePoints (s : OrderedSet String) :
    s.toList.Pairwise fun a b => codePoints a < codePoints b :=
  s.increasing.imp codePoints_lt_iff.2

/-- The keys of an `OrderedMap` are listed by increasing `codePoints`. -/
theorem OrderedMap.pairwise_codePoints {α : Type} (m : OrderedMap String α) :
    m.keys.Pairwise fun a b => codePoints a < codePoints b :=
  List.pairwise_map.2 (m.increasing.imp codePoints_lt_iff.2)

end AccessorSchema
