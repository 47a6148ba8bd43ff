import AccessorSchema.Proofs.AccessorName
import AccessorSchema.Proofs.TextBytes

/-!
# Names are read as they are made

A start is looked for among the bytes of a name and cut off after its own number of bytes, while it is by
characters that a residue is well formed. The two agree: the place of the cut is between two characters,
whatever characters the name has, and what is left is the residue that the name was made of.

* **`GoesOnAfter`**, `CutAfter` — a name that starts with the bytes of a text, and what it is cut into;
* **`cutAfter_iff`**, `goesOnAfter_iff` — the cut leaves a text, and the name is made of the start and that;
* **`GetterName.kind?_classify`**, `getterKind?_eq_some_iff_goesOnAfter` — the kind that is reported, in bytes;
* **`ReadsBack`**, `LeadsBack` — what is read of the names of a residue, and what the residue of a name leads
  to;
* **`GetterName.classify_inverts_naming`** — reading a name undoes making it.
-/

namespace AccessorSchema

open LetterCase

/-! ## Cuts -/

/-- **`GoesOnAfter start name`**: the name has more bytes than `start`, and the first of them are
those of `start`. -/
structure GoesOnAfter (start name : String) : Prop where
  longer : start.utf8ByteSize < name.utf8ByteSize
  starts : (textBytes name).take start.utf8ByteSize = textBytes start

/-- **`CutAfter start name residue`**: the name is cut after `start` into that and a `residue`. -/
structure CutAfter (start name residue : String) : Prop extends GoesOnAfter start name where
  /-- The cut is between two characters: the position `rawEndPos` of `start` is valid in the
  name. -/
  boundary : start.rawEndPos.IsValid name
  rest : (textBytes name).drop start.utf8ByteSize = textBytes residue

/-- What follows `start` where a name `GoesOnAfter` it is not empty. -/
theorem GoesOnAfter.residue_ne_empty {start residue : String}
    (h : GoesOnAfter start (start ++ residue)) : residue ≠ "" := by
  rintro rfl
  have hlonger := h.longer
  rw [String.append_empty] at hlonger
  exact Nat.lt_irrefl _ hlonger

/-- **A name that `CutAfter` cuts is made of `start` and `residue`.** -/
theorem cutAfter_iff {start name residue : String} :
    CutAfter start name residue ↔ name = start ++ residue ∧ residue ≠ "" := by
  constructor
  · intro h
    have hname : name = start ++ residue := by
      rw [← textBytes_inj, textBytes_append, ← h.starts, ← h.rest, List.take_append_drop]
    have hlonger : GoesOnAfter start (start ++ residue) := hname ▸ h.toGoesOnAfter
    exact ⟨hname, hlonger.residue_ne_empty⟩
  · rintro ⟨rfl, hne⟩
    have hpos : 0 < residue.utf8ByteSize :=
      Nat.pos_of_ne_zero fun hzero => hne (String.utf8ByteSize_eq_zero_iff.1 hzero)
    refine ⟨⟨?_, ?_⟩, ?_, ?_⟩
    · rw [String.utf8ByteSize_append]
      omega
    · rw [textBytes_append, ← length_textBytes, List.take_left]
    · exact String.Pos.Raw.isValid_iff_exists_append.2 ⟨start, residue, rfl, rfl⟩
    · rw [textBytes_append, ← length_textBytes, List.drop_left]

/-- **Where a name `GoesOnAfter` a start, it can be cut there**, in the sense of `CutAfter`. -/
theorem goesOnAfter_iff {start name : String} :
    GoesOnAfter start name ↔ ∃ residue, CutAfter start name residue := by
  constructor
  · intro h
    have hbytes : textBytes name = textBytes start ++ (textBytes name).drop start.utf8ByteSize := by
      rw [← h.starts, List.take_append_drop]
    obtain ⟨residue, rfl, -⟩ := exists_eq_append_of_textBytes hbytes
    exact ⟨residue, cutAfter_iff.2 ⟨rfl, h.residue_ne_empty⟩⟩
  · rintro ⟨residue, h⟩
    exact h.toGoesOnAfter

/-- What `residueAfter?` gives is what `CutAfter` cuts the name into. -/
theorem residueAfter?_eq_some_iff_cutAfter {start name residue : String} :
    residueAfter? start name = some residue ↔ CutAfter start name residue := by
  rw [residueAfter?_eq_some_iff, cutAfter_iff]

/-- A name has a `residueAfter?` a start exactly if it `GoesOnAfter` it. -/
theorem residueAfter?_isSome_iff_goesOnAfter {start name : String} :
    (residueAfter? start name).isSome ↔ GoesOnAfter start name := by
  rw [Option.isSome_iff_exists, goesOnAfter_iff]
  simp only [residueAfter?_eq_some_iff_cutAfter]

/-! ## Shapes -/

/-- A name has the `getterKind?` of a kind exactly if it `GoesOnAfter` the start of that kind. -/
theorem getterKind?_eq_some_iff_goesOnAfter {name : String} {kind : GetterKind} :
    getterKind? name = some kind ↔ GoesOnAfter kind.text name := by
  rw [getterKind?_eq_some_iff, goesOnAfter_iff]
  simp only [cutAfter_iff]
  rfl

/-- `kind?`: the kind of getter that a name is read as. -/
def GetterName.kind? : GetterName → Option GetterKind
  | .notGetter => none
  | .malformed kind => some kind
  | .valid kind _ => some kind

/-- **What `classify` gives tells the `getterKind?` of a name**, be the residue well formed or
not. -/
theorem GetterName.kind?_classify (name : String) : (classify name).kind? = getterKind? name := by
  cases hk : getterKind? name with
  | none =>
    have hnot : classify name = .notGetter := by simp [classify, hk]
    rw [hnot, kind?]
  | some kind =>
    obtain ⟨residue, rfl, hr⟩ := getterKind?_eq_some_iff.1 hk
    rw [classify_getterName kind hr]
    by_cases hw : isWellFormedResidue residue = true
    · rw [if_pos hw, kind?]
    · rw [if_neg hw, kind?]

/-- No name has both a `getterKind?` and `isSetterName`. -/
theorem not_getter_and_setter (name : String) :
    ¬ ((getterKind? name).isSome = true ∧ isSetterName name = true) := by
  rintro ⟨hgetter, hsetter⟩
  obtain ⟨kind, hk⟩ := Option.isSome_iff_exists.1 hgetter
  obtain ⟨residue, hname, -⟩ := getterKind?_eq_some_iff.1 hk
  obtain ⟨residue', hname', -⟩ := residueAfter?_isSome_iff.1 hsetter
  exact getterName_ne_setterName kind residue residue' (hname.symm.trans hname')

/-- **`isWellFormedResidue` holds** exactly if there is a capital among the first two characters. -/
theorem isWellFormedResidue_iff_exists_capital {residue : String} :
    isWellFormedResidue residue = true ↔ ∃ c ∈ residue.toList.take 2, isUppercase c = true := by
  unfold isWellFormedResidue
  cases residue.toList with
  | nil => simp
  | cons c t =>
    cases t with
    | nil => simp
    | cons d t => simp

/-! ## Reading back -/

/-- **`ReadsBack residue`**: the names of the `residue` are read back. With `get` or `is` before it,
it makes a name of that kind, and that of a valid getter of the residue if the residue is well
formed; with `set` before it, it makes the name of a setter, and of no getter. -/
structure ReadsBack (residue : String) : Prop where
  kind : ∀ kind : GetterKind, (GetterName.classify (kind.text ++ residue)).kind? = some kind
  valid_iff : ∀ kind : GetterKind, GetterName.classify (kind.text ++ residue) = .valid kind residue ↔
    isWellFormedResidue residue = true
  malformed_iff : ∀ kind : GetterKind, GetterName.classify (kind.text ++ residue) = .malformed kind ↔
    isWellFormedResidue residue = false
  setter : isSetterName ("set" ++ residue) = true
  noGetter : GetterName.classify ("set" ++ residue) = .notGetter

/-- A residue that is not empty `ReadsBack`. -/
theorem readsBack {residue : String} (hr : residue ≠ "") : ReadsBack residue where
  kind kind := by
    rw [GetterName.kind?_classify]
    exact getterKind?_eq_some_iff.2 ⟨residue, rfl, hr⟩
  valid_iff kind := classify_eq_valid_iff.trans (and_iff_right rfl)
  malformed_iff kind := by
    have hread : GetterName.classify (kind.text ++ residue) = _ := classify_getterName kind hr
    rw [hread]
    cases isWellFormedResidue residue <;> simp
  setter := residueAfter?_isSome_iff.2 ⟨residue, rfl, hr⟩
  noGetter := classify_setterName residue

/-- **`LeadsBack name kind residue`**: the `residue` of a name leads back to the name, cut between
two of its characters, and to a setter and an `is` getter of the same residue. -/
structure LeadsBack (name : String) (kind : GetterKind) (residue : String) : Prop where
  spelled : kind.text ++ residue = name
  cut : CutAfter kind.text name residue
  goesOn : residue ≠ ""
  wellFormed : isWellFormedResidue residue = true
  setter : isSetterName (setterName residue) = true ∧ CutAfter "set" (setterName residue) residue
  dual : GetterName.classify (dualName residue) = .valid .is residue

/-- The residue that `classify` finds in a valid getter's name `LeadsBack`. -/
theorem leadsBack_of_valid {name residue : String} {kind : GetterKind}
    (h : GetterName.classify name = .valid kind residue) : LeadsBack name kind residue := by
  obtain ⟨rfl, hw⟩ := classify_eq_valid_iff.1 h
  have hr : residue ≠ "" := ne_empty_of_isWellFormedResidue hw
  constructor
  · rfl
  · exact cutAfter_iff.2 ⟨rfl, hr⟩
  · exact hr
  · exact hw
  · exact ⟨(readsBack hr).setter, cutAfter_iff.2 ⟨rfl, hr⟩⟩
  · exact ((readsBack hr).valid_iff .is).2 hw

/-- **Reading a name undoes making it.** If `classify` finds a valid getter, its name is its start
with its residue, which is not empty and well formed, and `LeadsBack` from the names of the setter
and of the `is` getter. Every residue `ReadsBack`: the names it makes are read as what they were
made as, all of them valid getters of the residue or none. Names have one shape at most, which their
bytes show, as `GoesOnAfter` has it. -/
theorem GetterName.classify_inverts_naming :
    (∀ name kind residue, classify name = .valid kind residue → LeadsBack name kind residue) ∧
      (∀ residue, residue ≠ "" → ReadsBack residue) ∧
      (∀ residue, isWellFormedResidue residue = true ↔
        ∃ c ∈ residue.toList.take 2, isUppercase c = true) ∧
      (∀ name, ¬ ((getterKind? name).isSome = true ∧ isSetterName name = true)) ∧
      (∀ name kind, (classify name).kind? = some kind ↔ GoesOnAfter kind.text name) ∧
      ∀ name, isSetterName name = true ↔ GoesOnAfter "set" name := by
  refine ⟨fun _ _ _ => leadsBack_of_valid, fun _ => readsBack,
    fun _ => isWellFormedResidue_iff_exists_capital, not_getter_and_setter, fun name kind => ?_,
    fun _ => residueAfter?_isSome_iff_goesOnAfter⟩
  rw [kind?_classify]
  exact getterKind?_eq_some_iff_goesOnAfter

/-- In `getÉcole` the residue starts with a letter of two bytes, and the name is cut before the
letter. -/
theorem accentedName_leadsBack :
    GetterName.classify "get\u00C9cole" = .valid .get "\u00C9cole" ∧
      LeadsBack "get\u00C9cole" .get "\u00C9cole" ∧ "\u00C9cole" ≠ "" ∧ ReadsBack "\u00C9cole" := by
  have hread : GetterName.classify "get\u00C9cole" = .valid .get "\u00C9cole" := by decide +kernel
  obtain ⟨hback, hnames, -⟩ := GetterName.classify_inverts_naming
  exact ⟨hread, hback _ _ _ hread, by decide, hnames _ (by decide)⟩

end AccessorSchema
