import AccessorSchema.AccessorName

/-!
# Names that share a residue

* **`residueAfter?_eq_some_iff`** — the residue is what completes the start to the name;
* **`classify_eq_valid_iff`** — a name is a valid getter exactly if it is `get` or `is` with a
  well-formed residue after it, and `classify_eq_malformed_iff` a malformed one with any other;
* **`getterName_inj`** — kind and residue can be read off a getter name, so that getters of
  different kind or residue have different names, and none is named like a setter.
-/

namespace AccessorSchema

/-! ## Residues -/

/-- **`residueAfter? start name = some residue`** exactly if `residue` completes `start` to
`name`. -/
theorem residueAfter?_eq_some_iff {start name residue : String} :
    residueAfter? start name = some residue ↔ name = start ++ residue ∧ residue ≠ "" := by
  unfold residueAfter?
  rw [← String.length_toList]
  constructor
  · intro h
    obtain ⟨hcond, hres⟩ := Option.ite_none_right_eq_some.1 h
    rw [Bool.and_eq_true, List.isPrefixOf_iff_prefix] at hcond
    obtain ⟨⟨t, ht⟩, hne⟩ := hcond
    rw [← ht, List.drop_left] at hres hne
    obtain rfl : String.ofList t = residue := by simpa using hres
    constructor
    · rw [← String.toList_inj, String.toList_append, String.toList_ofList, ht]
    · simpa using hne
  · rintro ⟨rfl, hne⟩
    have hpre : start.toList.isPrefixOf (start ++ residue).toList = true := by
      rw [List.isPrefixOf_iff_prefix, String.toList_append]
      exact List.prefix_append _ _
    have hrest : (start ++ residue).toList.drop start.toList.length = residue.toList := by
      rw [String.toList_append, List.drop_left]
    rw [hpre, hrest, if_pos (by simpa using hne), String.ofList_toList]

/-- `residueAfter? start name` is there exactly if `name` goes on after `start`. -/
theorem residueAfter?_isSome_iff {start name : String} :
    (residueAfter? start name).isSome ↔ ∃ residue, name = start ++ residue ∧ residue ≠ "" := by
  rw [Option.isSome_iff_exists]
  simp only [residueAfter?_eq_some_iff]

/-- A residue with `isWellFormedResidue residue` is not empty. -/
theorem ne_empty_of_isWellFormedResidue {residue : String}
    (h : isWellFormedResidue residue = true) : residue ≠ "" := by
  rintro rfl
  simp [isWellFormedResidue] at h

/-! ## Starts -/

/-- `getterName kind residue`: the name of a getter, as `setterName residue` is that of a setter. -/
def getterName (kind : GetterKind) (residue : String) : String := kind.text ++ residue

@[simp] theorem dualName_eq (residue : String) : dualName residue = getterName .is residue := rfl

/-- `s ++ r ≠ t ++ r'` if `s` and `t` begin with different characters `c` and `d`. -/
theorem append_ne_append_of_head {s t : String} {c d : Char} {cs ds : List Char}
    (hs : s.toList = c :: cs) (ht : t.toList = d :: ds) (hcd : c ≠ d) (r r' : String) :
    s ++ r ≠ t ++ r' := by
  intro h
  rw [← String.toList_inj, String.toList_append, String.toList_append, hs, ht] at h
  exact hcd (List.cons.inj h).1

/-- **`getterName` is injective**: kind and residue can be read off a getter name. -/
theorem getterName_inj {k k' : GetterKind} {r r' : String} :
    getterName k r = getterName k' r' ↔ k = k' ∧ r = r' := by
  constructor
  · intro h
    cases k <;> cases k'
    · exact ⟨rfl, String.append_right_inj _ |>.1 h⟩
    · exact absurd h (append_ne_append_of_head (c := 'g') (d := 'i') rfl rfl (by decide) r r')
    · exact absurd h (append_ne_append_of_head (c := 'i') (d := 'g') rfl rfl (by decide) r r')
    · exact ⟨rfl, String.append_right_inj _ |>.1 h⟩
  · rintro ⟨rfl, rfl⟩
    rfl

/-- `setterName` is injective: the residue can be read off a setter name. -/
theorem setterName_inj {r r' : String} : setterName r = setterName r' ↔ r = r' :=
  String.append_right_inj _

/-- No `getterName` is a `setterName`. -/
theorem getterName_ne_setterName (k : GetterKind) (r r' : String) :
    getterName k r ≠ setterName r' := by
  cases k
  · exact append_ne_append_of_head (c := 'g') (d := 's') rfl rfl (by decide) r r'
  · exact append_ne_append_of_head (c := 'i') (d := 's') rfl rfl (by decide) r r'

/-! ## Reading names -/

/-- `getterKind? name = some kind` exactly if `name` is a `getterName kind` with a residue that is
not empty. -/
theorem getterKind?_eq_some_iff {name : String} {kind : GetterKind} :
    getterKind? name = some kind ↔ ∃ residue, name = getterName kind residue ∧ residue ≠ "" := by
  unfold getterKind?
  by_cases hget : (residueAfter? GetterKind.get.text name).isSome
  · rw [if_pos hget]
    obtain ⟨r, rfl, hr⟩ := residueAfter?_isSome_iff.1 hget
    constructor
    · intro h
      obtain rfl : GetterKind.get = kind := by simpa using h
      exact ⟨r, rfl, hr⟩
    · rintro ⟨r', h, -⟩
      -- No name starts with `get` and with `is`.
      rw [(getterName_inj.1 h).1]
  · rw [if_neg hget]
    constructor
    · intro h
      obtain ⟨his, hk⟩ := Option.ite_none_right_eq_some.1 h
      obtain rfl : GetterKind.is = kind := by simpa using hk
      exact residueAfter?_isSome_iff.1 his
    · rintro ⟨r, rfl, hr⟩
      cases kind
      · exact absurd (residueAfter?_isSome_iff.2 ⟨r, rfl, hr⟩) hget
      · have his : (residueAfter? GetterKind.is.text (getterName .is r)).isSome :=
          residueAfter?_isSome_iff.2 ⟨r, rfl, hr⟩
        rw [if_pos his]

/-- `GetterName.classify (getterName kind residue)` is `.valid` or `.malformed`, as `residue` is
well formed or not. -/
theorem classify_getterName (kind : GetterKind) {residue : String} (hr : residue ≠ "") :
    GetterName.classify (getterName kind residue) =
      if isWellFormedResidue residue = true then .valid kind residue else .malformed kind := by
  have hk : getterKind? (getterName kind residue) = some kind :=
    getterKind?_eq_some_iff.2 ⟨residue, rfl, hr⟩
  have hres : residueAfter? kind.text (getterName kind residue) = some residue :=
    residueAfter?_eq_some_iff.2 ⟨rfl, hr⟩
  unfold GetterName.classify
  simp only [hk, hres]

/-- `GetterName.classify name` is `.notGetter` unless `name` is a `getterName` with a residue. -/
theorem classify_eq_notGetter_or (name : String) :
    GetterName.classify name = .notGetter ∨
      ∃ kind residue, residue ≠ "" ∧ name = getterName kind residue := by
  cases hk : getterKind? name with
  | none => exact .inl (by simp [GetterName.classify, hk])
  | some kind =>
    obtain ⟨residue, hname, hr⟩ := getterKind?_eq_some_iff.1 hk
    exact .inr ⟨kind, residue, hr, hname⟩

/-- **`GetterName.classify name = .valid kind residue`** exactly if `name` is
`getterName kind residue` and the residue is well formed. -/
theorem classify_eq_valid_iff {name residue : String} {kind : GetterKind} :
    GetterName.classify name = .valid kind residue ↔
      name = getterName kind residue ∧ isWellFormedResidue residue = true := by
  constructor
  · intro h
    rcases classify_eq_notGetter_or name with hnot | ⟨k, r, hr, rfl⟩
    · rw [hnot] at h
      exact absurd h (by simp)
    · rw [classify_getterName k hr] at h
      by_cases hw : isWellFormedResidue r = true
      · rw [if_pos hw, GetterName.valid.injEq] at h
        obtain ⟨rfl, rfl⟩ := h
        exact ⟨rfl, hw⟩
      · rw [if_neg hw] at h
        exact absurd h (by simp)
  · rintro ⟨rfl, hw⟩
    rw [classify_getterName kind (ne_empty_of_isWellFormedResidue hw), if_pos hw]

/-- **`GetterName.classify name = .malformed kind`** exactly if `name` is a `getterName kind` with a
residue that is not well formed. -/
theorem classify_eq_malformed_iff {name : String} {kind : GetterKind} :
    GetterName.classify name = .malformed kind ↔
      ∃ residue, name = getterName kind residue ∧ residue ≠ "" ∧
        isWellFormedResidue residue ≠ true := by
  constructor
  · intro h
    rcases classify_eq_notGetter_or name with hnot | ⟨k, r, hr, rfl⟩
    · rw [hnot] at h
      exact absurd h (by simp)
    · rw [classify_getterName k hr] at h
      by_cases hw : isWellFormedResidue r = true
      · rw [if_pos hw] at h
        exact absurd h (by simp)
      · rw [if_neg hw, GetterName.malformed.injEq] at h
        subst h
        exact ⟨r, rfl, hr, hw⟩
  · rintro ⟨residue, rfl, hr, hw⟩
    rw [classify_getterName kind hr, if_neg hw]

/-- **`isAccessorName name`** exactly if `name` is a `getterName` or a `setterName` with a
residue. -/
theorem isAccessorName_iff {name : String} :
    isAccessorName name = true ↔
      (∃ kind residue, residue ≠ "" ∧ name = getterName kind residue) ∨
        ∃ residue, residue ≠ "" ∧ name = setterName residue := by
  unfold isAccessorName isSetterName
  rw [Bool.or_eq_true, Option.isSome_iff_exists, residueAfter?_isSome_iff]
  refine or_congr (exists_congr fun kind => ?_) (exists_congr fun residue => and_comm)
  rw [getterKind?_eq_some_iff]
  exact exists_congr fun residue => and_comm

/-- `isAccessorName (getterName kind residue)` for a residue that is not empty. -/
theorem isAccessorName_getterName (kind : GetterKind) {residue : String} (hr : residue ≠ "") :
    isAccessorName (getterName kind residue) = true :=
  isAccessorName_iff.2 (.inl ⟨kind, residue, hr, rfl⟩)

/-- `isAccessorName (getterName kind residue)` only for a residue that is not empty. -/
theorem ne_empty_of_isAccessorName_getterName {kind : GetterKind} {residue : String}
    (hacc : isAccessorName (getterName kind residue) = true) : residue ≠ "" := by
  rcases isAccessorName_iff.1 hacc with ⟨kind', r, hr, hname⟩ | ⟨r, -, hname⟩
  · rw [(getterName_inj.1 hname).2]
    exact hr
  · exact absurd hname (getterName_ne_setterName kind residue r)

/-- `isAccessorName (setterName residue)` for a residue that is not empty. -/
theorem isAccessorName_setterName {residue : String} (hr : residue ≠ "") :
    isAccessorName (setterName residue) = true :=
  isAccessorName_iff.2 (.inr ⟨residue, hr, rfl⟩)

/-- `GetterName.classify (setterName residue) = .notGetter`: no setter is read as a getter. -/
theorem classify_setterName (residue : String) :
    GetterName.classify (setterName residue) = .notGetter := by
  have hk : getterKind? (setterName residue) = none := by
    rw [Option.eq_none_iff_forall_ne_some]
    intro k h
    obtain ⟨r, hr, -⟩ := getterKind?_eq_some_iff.1 h
    exact getterName_ne_setterName k r residue hr.symm
  simp [GetterName.classify, hk]

end AccessorSchema
