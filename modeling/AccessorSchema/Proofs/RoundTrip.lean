import AccessorSchema.Configuration.Codec
import AccessorSchema.Declaration.Codec
import AccessorSchema.Proofs.JsonText
import AccessorSchema.Schema.Codec

/-!
# Documents round trip

Whatever a codec writes, it reads back as the value that was written. This is a property of codecs that
passes from the parts to the whole: from items to arrays, and from fields to structures, where a field
that is left out has to stand for the value it was left out for, and no other field may answer to the
name of a field.

* **`Codec.Faithful`** — decoding undoes encoding, for documents of limited depth;
* **`Codec.FaithfulObject`** — the same for codecs that write objects, with the names of their members;
* **`Fields.Faithful.cons`** — a field before further fields;
* `splitTag_ofJson` — the tag is found, and what is set aside is all the rest;
* **`Codec.RoundTrips`** — reading a text undoes writing it, and writing what was read is stable;
* **`documents_roundTrip`** — all documents round trip.
-/

namespace AccessorSchema

/-! ## Depth of documents -/

namespace Node

theorem allFit_eq_all (depth : Nat) (nodes : List Node) :
    allFit depth nodes = nodes.all (fits depth) := by
  induction nodes with
  | nil => rfl
  | cons n rest ih => rw [allFit, ih, List.all_cons]

/-- An array `fits` a depth if its items do with one level less. -/
theorem fits_array {depth : Nat} {items : List Json}
    (h : ∀ v ∈ items, (ofJson v).fits depth = true) :
    (ofJson (.array items)).fits (depth + 1) = true := by
  rw [ofJson, ofItems_eq_map, fits, allFit_eq_all, List.all_map, List.all_eq_true]
  exact h

/-- An object `fits` a depth if the values of its members do with one level less. -/
theorem fits_object {depth : Nat} {members : List (String × Json)}
    (h : ∀ e ∈ members, (ofJson e.2).fits depth = true) :
    (ofJson (.object members)).fits (depth + 1) = true := by
  rw [ofJson, fits]
  induction members with
  | nil => rfl
  | cons e rest ih =>
    obtain ⟨he, hrest⟩ := List.forall_mem_cons.1 h
    rw [ofMembers, membersFit, he, ih hrest]
    rfl

end Node

/-! ## Faithful codecs -/

namespace Codec

variable {α : Type} {c : Codec α} {depth : Nat}

/-- **`Faithful c depth`**: the codec `c` reads back the values it writes, in every medium, and
writes nothing that is nested more deeply than `depth`. -/
structure Faithful (c : Codec α) (depth : Nat) : Prop where
  decode_encode : ∀ medium a, c.decode medium (.ofJson (c.encode a)) = .ok a
  fits : ∀ a, (Node.ofJson (c.encode a)).fits depth = true

namespace Faithful

/-- Strings are read back by `Codec.string`, and booleans by `Codec.bool` below. -/
theorem string (depth : Nat) : Codec.string.Faithful depth :=
  ⟨fun _ _ => rfl, fun _ => rfl⟩

theorem bool (depth : Nat) : Codec.bool.Faithful depth :=
  ⟨fun _ _ => rfl, fun _ => rfl⟩

/-- **Variants of an `enumeration` are read back** if each is found under its name. -/
theorem enumeration {variants : List (String × α)} {name : α → String} (depth : Nat)
    (h : ∀ a, variantOf variants (name a) = .ok a) :
    (Codec.enumeration variants name).Faithful depth :=
  ⟨fun _ a => h a, fun _ => rfl⟩

variable (h : c.Faithful depth)

include h

/-- What was written for a list of values is read back by `decodeAll` from left to right. -/
theorem decodeAll_map_encode (medium : Medium) (l : List α) :
    c.decodeAll medium ((l.map c.encode).map Node.ofJson) = .ok l := by
  induction l with
  | nil => rfl
  | cons a l ih => simp only [List.map_cons, decodeAll, h.decode_encode, ih]

/-- **Lists are read back by `c.list`** if their items are by `c`. -/
theorem list : c.list.Faithful (depth + 1) where
  decode_encode medium l := by
    show c.decodeAll medium (Node.ofItems (l.map c.encode)) = .ok l
    rw [Node.ofItems_eq_map]
    exact h.decodeAll_map_encode medium l
  fits l := by
    show (Node.ofJson (.array (l.map c.encode))).fits (depth + 1) = true
    exact Node.fits_array (List.forall_mem_map.2 fun a _ => h.fits a)

/-- **Sets are read back by `c.set`**: what a set was written as is put in order again. -/
theorem set [Ord α] [Std.TransOrd α] [Std.LawfulEqOrd α] : c.set.Faithful (depth + 1) where
  decode_encode medium s := by
    show (c.list.decode medium (.ofJson (c.list.encode s.toList))).map .ofList = .ok s
    rw [h.list.decode_encode]
    refine congrArg Except.ok (OrderedSet.ext_mem fun a => ?_)
    rw [OrderedSet.mem_ofList, OrderedSet.mem_iff]
  fits s := h.list.fits s.toList

end Faithful

/-- **`FaithfulObject c names depth`**: the codec `c` of objects reads back what it writes, and the
members it writes have the given `names` and are not nested more deeply than `depth`. -/
structure FaithfulObject (c : Codec α) (names : List String) (depth : Nat) : Prop where
  decode_encode : ∀ medium a, c.decode medium (.ofJson (c.encode a)) = .ok a
  encode_eq : ∀ a, ∃ members, c.encode a = .object members ∧
    ∀ e ∈ members, e.1 ∈ names ∧ (Node.ofJson e.2).fits depth = true

namespace FaithfulObject

variable {names : List String} (h : c.FaithfulObject names depth)

include h

/-- A codec that is a `FaithfulObject` is `Faithful`, as objects are one level deeper than their
members. -/
theorem faithful : c.Faithful (depth + 1) where
  decode_encode := h.decode_encode
  fits a := by
    obtain ⟨members, heq, hmembers⟩ := h.encode_eq a
    rw [heq]
    exact Node.fits_object fun e he => (hmembers e he).2

/-- **An optional object is read back by `c.optional`**, as no object is written as the absent
value. -/
theorem optional : c.optional.Faithful (depth + 1) where
  decode_encode medium a := by
    cases a with
    | none => rfl
    | some a =>
      obtain ⟨members, heq, -⟩ := h.encode_eq a
      have hdecode := h.decode_encode medium a
      rw [heq] at hdecode
      show c.optional.decode medium (.ofJson (c.encode a)) = .ok (some a)
      rw [heq]
      show (c.decode medium (.ofJson (.object members))).map some = .ok (some a)
      rw [hdecode]
      rfl
  fits a := by
    cases a with
    | none => rfl
    | some a => exact h.faithful.fits a

end FaithfulObject

end Codec

/-! ## Fields -/

/-- **`Faithful f depth`**: the codec of the field `f` is faithful, and the field is left out only
for the value that its absence stands for. -/
structure Field.Faithful {α : Type} (f : Field α) (depth : Nat) : Prop where
  codec : f.codec.Faithful depth
  omitted : ∀ a, f.omitted a = true → f.absent = some a

namespace Field.Faithful

variable {α : Type} {c : Codec α} {depth : Nat}

/-- Fields that are `required`, and so always written, are faithful if their codecs are. -/
theorem required (name : String) (h : c.Faithful depth) : (Field.required name c).Faithful depth :=
  ⟨h, fun _ hfalse => absurd hfalse (by simp [Field.required])⟩

theorem withDefault (name : String) (value : α) (h : c.Faithful depth) :
    (Field.withDefault name c value).Faithful depth :=
  ⟨h, fun _ hfalse => absurd hfalse (by simp [Field.withDefault])⟩

end Field.Faithful

namespace Fields

variable {α σ τ : Type} {f : Field α} {rest : Fields σ τ} {names : List String} {depth : Nat}

/-- **`Faithful fields names depth`**: the members that the `fields` write have the given `names`
and `depth`, and taking in these members completes the values they were written for. -/
structure Faithful (fields : Fields σ τ) (names : List String) (depth : Nat) : Prop where
  named : ∀ t, ∀ e ∈ fields.members t, e.1 ∈ names ∧ (Node.ofJson e.2).fits depth = true
  accepted : ∀ medium t, ∃ met,
    fields.acceptAll medium fields.unmet (Node.ofMembers (fields.members t)) = .ok met ∧
      fields.complete met = .ok t

/-- Without fields, for `Fields.nil`, nothing is written and nothing is missed. -/
theorem Faithful.nil : Fields.nil.Faithful [] depth where
  named _ _ he := absurd he List.not_mem_nil
  accepted _ _ := ⟨(), rfl, rfl⟩

/-- **Members that `f` does not answer to are left to the further fields.** -/
theorem acceptAll_cons_of_not_answersTo (medium : Medium) (met : Option α) (others : σ)
    {members : List (String × Json)} (h : ∀ e ∈ members, f.answersTo e.1 = false) :
    (cons f rest).acceptAll medium (met, others) (Node.ofMembers members) =
      (rest.acceptAll medium others (Node.ofMembers members)).map fun others => (met, others) := by
  induction members generalizing others with
  | nil => rfl
  | cons e members ih =>
    obtain ⟨he, hmembers⟩ := List.forall_mem_cons.1 h
    have haccept : (cons f rest).accept medium e.1 (.ofJson e.2) (met, others) =
        (rest.accept medium e.1 (.ofJson e.2) others).map fun r => r.map fun others =>
          (met, others) := by
      simp only [cons, he, Bool.false_eq_true, if_false]
    simp only [Node.ofMembers, acceptAll, haccept]
    cases rest.accept medium e.1 (.ofJson e.2) others with
    | none =>
      -- A member that no field has the name of is passed over.
      simp only [Option.map_none]
      split
      · exact ih others hmembers
      · rfl
    | some r =>
      cases r with
      | error problem => rfl
      | ok others' => exact ih others' hmembers

/-- A member that was written for a field is taken in by it, through `accept`. -/
theorem accept_cons_encode (hf : f.Faithful depth) (medium : Medium) (a : α) (others : σ) :
    (cons f rest).accept medium f.name (.ofJson (f.codec.encode a)) (none, others) =
      some (.ok (some a, others)) := by
  have hanswers : f.answersTo f.name = true := by simp [Field.answersTo]
  simp only [cons, hanswers, if_true, hf.codec.decode_encode]
  rfl

/-- **A faithful field before faithful fields**, if it does not answer to their `names`. -/
theorem Faithful.cons (hf : f.Faithful depth) (hrest : rest.Faithful names depth)
    (hapart : ∀ name ∈ names, f.answersTo name = false) :
    (Fields.cons f rest).Faithful (f.name :: names) depth where
  named := by
    rintro ⟨a, t⟩ e he
    rcases List.mem_append.1 he with he | he
    · -- If a member is written for the field, it has the field's name.
      rw [Field.member] at he
      split at he
      · exact absurd he List.not_mem_nil
      · rw [List.mem_singleton.1 he]
        exact ⟨List.mem_cons_self, hf.codec.fits a⟩
    · obtain ⟨hname, hfits⟩ := hrest.named t e he
      exact ⟨List.mem_cons_of_mem _ hname, hfits⟩
  accepted := by
    rintro medium ⟨a, t⟩
    obtain ⟨met, haccepted, hcomplete⟩ := hrest.accepted medium t
    have hothers : ∀ e ∈ rest.members t, f.answersTo e.1 = false :=
      fun e he => hapart e.1 (hrest.named t e he).1
    have hmembers : (Fields.cons f rest).members (a, t) = f.member a ++ rest.members t := rfl
    by_cases hwritten : f.omitted a = true
    · -- Nothing is met of the field, and its absence stands for the value.
      refine ⟨(none, met), ?_, ?_⟩
      · rw [hmembers, Field.member, if_pos hwritten, List.nil_append]
        show (Fields.cons f rest).acceptAll medium (none, rest.unmet) _ = _
        rw [acceptAll_cons_of_not_answersTo medium none rest.unmet hothers, haccepted]
        rfl
      · simp only [Fields.cons, Field.valueOr, hf.omitted a hwritten, hcomplete]
        rfl
    · refine ⟨(some a, met), ?_, ?_⟩
      · rw [hmembers, Field.member, if_neg hwritten, List.singleton_append, Node.ofMembers]
        show (Fields.cons f rest).acceptAll medium (none, rest.unmet) _ = _
        rw [acceptAll, accept_cons_encode hf]
        show (Fields.cons f rest).acceptAll medium (some a, rest.unmet) _ = _
        rw [acceptAll_cons_of_not_answersTo medium (some a) rest.unmet hothers, haccepted]
        rfl
      · simp only [Fields.cons, Field.valueOr, hcomplete]
        rfl

end Fields

/-- **Structures are read back by `record`** if their `fields` are, and if `build` puts them
together from the `parts` that they are taken apart into. -/
theorem Codec.FaithfulObject.record {α σ τ : Type} {fields : Fields σ τ} {names : List String}
    {depth : Nat} {title : String} {build : τ → α} {parts : α → τ}
    (h : fields.Faithful names depth) (hbuild : ∀ a, build (parts a) = a) :
    (Codec.record title fields build parts).FaithfulObject names depth where
  decode_encode medium a := by
    obtain ⟨met, haccepted, hcomplete⟩ := h.accepted medium (parts a)
    have hdecode : fields.decodeMembers medium (Node.ofMembers (fields.members (parts a))) =
        .ok (parts a) := by
      simp only [Fields.decodeMembers, haccepted]
      exact hcomplete
    show (fields.decodeMembers medium (Node.ofMembers (fields.members (parts a)))).map build = .ok a
    rw [hdecode]
    exact congrArg Except.ok (hbuild a)
  encode_eq a := ⟨fields.members (parts a), rfl, h.named (parts a)⟩

/-! ## Enumerations and structures -/

/-- Values of `Marker` are found under their names, and so are kinds of types, states, severities
and the like below. -/
theorem Marker.faithful_codec (depth : Nat) : Marker.codec.Faithful depth :=
  .enumeration depth fun k => by cases k <;> rfl

theorem TypeKind.faithful_codec (depth : Nat) : TypeKind.codec.Faithful depth :=
  .enumeration depth fun k => by cases k <;> rfl

theorem PropertyState.faithful_codec (depth : Nat) : PropertyState.codec.Faithful depth :=
  .enumeration depth fun s => by cases s <;> rfl

theorem Severity.faithful_codec (depth : Nat) : Severity.codec.Faithful depth :=
  .enumeration depth fun s => by cases s <;> rfl

theorem DiagnosticKind.faithful_codec (depth : Nat) : DiagnosticKind.codec.Faithful depth :=
  .enumeration depth fun k => by cases k <;> rfl

theorem Threshold.faithful_codec (depth : Nat) : Threshold.codec.Faithful depth :=
  .enumeration depth fun t => by cases t <;> rfl

/-- **Values of `Method` are read back**, with or without markers. -/
theorem Method.faithful_codec (depth : Nat) :
    Method.codec.FaithfulObject
      ["name", "declaring_type", "return_type", "parameter_types", "markers"] (depth + 1) := by
  refine .record ?_ fun _ => rfl
  refine .cons (.required _ (.string _)) ?_ (by decide)
  refine .cons (.required _ (.string _)) ?_ (by decide)
  refine .cons (.required _ (.string _)) ?_ (by decide)
  refine .cons (.withDefault _ _ (Codec.Faithful.string depth).list) ?_ (by decide)
  -- Markers are left out exactly if there are none.
  have hmarkers : ∀ markers : OrderedSet Marker, markers.isEmpty = true → some ∅ = some markers := by
    intro markers hempty
    refine congrArg some (OrderedSet.ext_mem fun k => ?_)
    rw [OrderedSet.mem_iff, OrderedSet.mem_iff, List.isEmpty_iff.1 hempty]
    rfl
  exact .cons ⟨(Marker.faithful_codec depth).set, hmarkers⟩ .nil (by decide)

/-- Values of `TypeDescriptor` are read back. -/
theorem TypeDescriptor.faithful_codec (depth : Nat) :
    TypeDescriptor.codec.FaithfulObject ["name", "kind", "supertypes"] (depth + 1) := by
  refine .record ?_ fun _ => rfl
  refine .cons (.required _ (.string _)) ?_ (by decide)
  refine .cons (.withDefault _ _ (TypeKind.faithful_codec _)) ?_ (by decide)
  exact .cons (.withDefault _ _ (Codec.Faithful.string depth).list) .nil (by decide)

/-- Values of `MethodDeclaration` are read back. -/
theorem MethodDeclaration.faithful_codec (depth : Nat) :
    MethodDeclaration.codec.FaithfulObject ["name", "returns", "parameters", "markers"]
      (depth + 1) := by
  refine .record ?_ fun _ => rfl
  refine .cons (.required _ (.string _)) ?_ (by decide)
  refine .cons (.required _ (.string _)) ?_ (by decide)
  refine .cons (.withDefault _ _ (Codec.Faithful.string depth).list) ?_ (by decide)
  exact .cons (.withDefault _ _ (Marker.faithful_codec depth).set) .nil (by decide)

/-- **Values of `TypeDeclaration` are read back**; the other name of the methods is none of the
other fields'. -/
theorem TypeDeclaration.faithful_codec (depth : Nat) :
    TypeDeclaration.codec.FaithfulObject ["name", "kind", "supertypes", "method"] (depth + 3) := by
  refine .record ?_ fun _ => rfl
  refine .cons (.required _ (.string _)) ?_ (by decide)
  refine .cons (.withDefault _ _ (TypeKind.faithful_codec _)) ?_ (by decide)
  refine .cons (.withDefault _ _ (Codec.Faithful.string (depth + 2)).list) ?_ (by decide)
  have hmethods := (MethodDeclaration.faithful_codec depth).faithful.list
  exact .cons ⟨hmethods, fun _ hfalse => absurd hfalse (by simp [Field.withDefault])⟩ .nil (by decide)

/-- **Values of `BoundProperty` are read back**; without a setter nothing is mistaken for one. -/
theorem BoundProperty.faithful_codec (depth : Nat) :
    BoundProperty.codec.FaithfulObject
      ["name", "value_type", "state", "declaring_types", "getter_bindings", "setter_binding",
        "is_opaque"] (depth + 3) := by
  have hmethod := Method.faithful_codec depth
  refine .record ?_ fun _ => rfl
  refine .cons (.required _ (.string _)) ?_ (by decide)
  refine .cons (.required _ (.string _)) ?_ (by decide)
  refine .cons (.required _ (PropertyState.faithful_codec _)) ?_ (by decide)
  refine .cons (.required _ (Codec.Faithful.string (depth + 2)).set) ?_ (by decide)
  refine .cons (.required _ hmethod.faithful.list) ?_ (by decide)
  refine .cons ⟨(Method.faithful_codec (depth + 1)).optional, fun _ hfalse => ?_⟩ ?_ (by decide)
  · exact absurd hfalse (by simp)
  · exact .cons (.required _ (.bool _)) .nil (by decide)

/-- Values of `SchemaAspect` are read back. -/
theorem SchemaAspect.faithful_codec (depth : Nat) :
    SchemaAspect.codec.FaithfulObject ["name", "properties"] (depth + 1) := by
  refine .record ?_ fun _ => rfl
  refine .cons (.required _ (.string _)) ?_ (by decide)
  exact .cons (.withDefault _ _ (Codec.Faithful.string depth).list) .nil (by decide)

/-- **Values of `StructSchema` are read back**, with or without aspects. -/
theorem StructSchema.faithful_codec (depth : Nat) :
    StructSchema.codec.FaithfulObject ["type_name", "properties", "aspects"] (depth + 5) := by
  refine .record ?_ fun _ => rfl
  refine .cons (.required _ (.string _)) ?_ (by decide)
  refine .cons (.required _ (BoundProperty.faithful_codec depth).faithful.list) ?_ (by decide)
  have haspects := (SchemaAspect.faithful_codec (depth + 2)).faithful.list
  exact .cons ⟨haspects, fun _ hempty => congrArg some (List.isEmpty_iff.1 hempty).symm⟩ .nil
    (by decide)

/-- **Values of `Diagnostic` are read back**, with or without methods. -/
theorem Diagnostic.faithful_codec (depth : Nat) :
    Diagnostic.codec.FaithfulObject ["severity", "kind", "subject", "methods", "message"]
      (depth + 3) := by
  refine .record ?_ fun _ => rfl
  refine .cons (.required _ (Severity.faithful_codec _)) ?_ (by decide)
  refine .cons (.required _ (DiagnosticKind.faithful_codec _)) ?_ (by decide)
  refine .cons (.required _ (.string _)) ?_ (by decide)
  have hmethods := (Method.faithful_codec depth).faithful.list
  refine .cons ⟨hmethods, fun _ hempty => congrArg some (List.isEmpty_iff.1 hempty).symm⟩ ?_
    (by decide)
  exact .cons (.required _ (.string _)) .nil (by decide)

/-- Values of `TypeSettings` are read back, and those of thresholds below. -/
theorem TypeSettings.faithful_codec (depth : Nat) :
    TypeSettings.codec.FaithfulObject ["boolean", "void", "scalars"] (depth + 1) := by
  refine .record ?_ fun _ => rfl
  refine .cons (.withDefault _ _ (Codec.Faithful.string depth).set) ?_ (by decide)
  refine .cons (.withDefault _ _ (.string _)) ?_ (by decide)
  exact .cons (.withDefault _ _ (Codec.Faithful.string depth).set) .nil (by decide)

theorem Threshold.faithful_sectionCodec (depth : Nat) :
    Threshold.sectionCodec.FaithfulObject ["fail_on"] depth := by
  refine .record ?_ fun _ => rfl
  exact .cons (.withDefault _ _ (Threshold.faithful_codec _)) .nil (by decide)

/-- **Values of `Configuration` are read back.** -/
theorem Configuration.faithful_codec (depth : Nat) :
    Configuration.codec.FaithfulObject ["types", "diagnostics"] (depth + 2) := by
  refine .record ?_ fun _ => rfl
  refine .cons (.withDefault _ _ (TypeSettings.faithful_codec depth).faithful) ?_ (by decide)
  exact .cons (.withDefault _ _ (Threshold.faithful_sectionCodec (depth + 1)).faithful) .nil
    (by decide)

/-! ## Schemas -/

/-- What does not have the name `tag` is set aside by `splitTagMembers` as it is. -/
theorem splitTagMembers_some {β : Type} {tag : String} {variants : List (String × β)} {b : β}
    {members : List (String × Json)}
    (h : ∀ e ∈ members, e.1 ≠ tag ∧ (Node.ofJson e.2).fits nestingLimit = true) :
    splitTagMembers tag variants (some b) (Node.ofMembers members) =
      .ok (b, Node.ofMembers members) := by
  induction members with
  | nil => rfl
  | cons e members ih =>
    obtain ⟨⟨hname, hfits⟩, hmembers⟩ := List.forall_mem_cons.1 h
    rw [Node.ofMembers, splitTagMembers, if_neg hname, if_pos hfits, ih hmembers]
    rfl

/-- **A `tag` that is written first is found by `splitTag`, and all the rest is set aside.** -/
theorem splitTag_ofJson {β : Type} {title tag name : String} {variants : List (String × β)} {b : β}
    {members : List (String × Json)} (hb : Codec.variantOf variants name = .ok b)
    (h : ∀ e ∈ members, e.1 ≠ tag ∧ (Node.ofJson e.2).fits nestingLimit = true) :
    splitTag title tag variants (.ofJson (.object ((tag, .string name) :: members))) =
      .ok (b, .ofJson (.object members)) := by
  have hmembers : splitTagMembers tag variants none
      (Node.ofMembers ((tag, .string name) :: members)) = .ok (b, Node.ofMembers members) := by
    rw [Node.ofMembers, splitTagMembers, if_pos rfl]
    show (do
      let b ← Codec.variantOf variants name
      splitTagMembers tag variants (some b) (Node.ofMembers members)) = _
    rw [hb]
    exact splitTagMembers_some h
  rw [Node.ofJson, splitTag, hmembers]
  rfl

namespace ModelSchema

/-- The type name of a schema is read back by `nameOnly`. -/
theorem faithful_nameOnly (title : String) (depth : Nat) :
    (nameOnly title).FaithfulObject ["type_name"] depth := by
  refine .record ?_ fun _ => rfl
  exact .cons (.required _ (.string _)) .nil (by decide)

/-- What `withTag` puts in front of an object, `splitTag` splits off again. -/
theorem splitTag_withTag {α : Type} {c : Codec α} {names : List String} {title name : String}
    {tag : Tag} (h : c.FaithfulObject names nestingLimit) (hnames : "schema" ∉ names)
    (hname : Codec.variantOf Tag.variants name = .ok tag) (a : α) :
    splitTag title "schema" Tag.variants (.ofJson (withTag name (c.encode a))) =
      .ok (tag, .ofJson (c.encode a)) := by
  obtain ⟨members, heq, hmembers⟩ := h.encode_eq a
  rw [heq, withTag]
  refine splitTag_ofJson hname fun e he => ⟨?_, (hmembers e he).2⟩
  intro hschema
  exact hnames (hschema ▸ (hmembers e he).1)

/-- A schema is read as the sort that its `tag` names. -/
theorem decode_of_splitTag (medium : Medium) {n rest : Node} {tag : Tag}
    (h : splitTag "internally tagged enum ModelSchema" "schema" Tag.variants n = .ok (tag, rest)) :
    codec.decode medium n =
      match tag with
      | .value => ((nameOnly "struct variant ModelSchema::Value").decode .buffered rest).map .value
      | .struct => (StructSchema.codec.decode .buffered rest).map .struct
      | .unknown =>
        ((nameOnly "struct variant ModelSchema::Unknown").decode .buffered rest).map .unknown := by
  simp only [codec, h]
  cases tag <;> rfl

/-- **Values of `ModelSchema` are read back**, whichever sort they are of. -/
theorem decode_encode (medium : Medium) (s : ModelSchema) :
    codec.decode medium (.ofJson (codec.encode s)) = .ok s := by
  cases s with
  | value n =>
    have hsplit : splitTag "internally tagged enum ModelSchema" "schema" Tag.variants
        (.ofJson (codec.encode (.value n))) = .ok (.value, .ofJson ((nameOnly "value").encode n)) :=
      splitTag_withTag (faithful_nameOnly "value" nestingLimit) (by decide) rfl n
    have hdecode := (faithful_nameOnly "struct variant ModelSchema::Value" 0).decode_encode
      .buffered n
    exact (decode_of_splitTag medium hsplit).trans (congrArg (Except.map ModelSchema.value) hdecode)
  | struct s =>
    -- Everything that a struct schema is written with fits into the limit.
    have hsplit : splitTag "internally tagged enum ModelSchema" "schema" Tag.variants
        (.ofJson (codec.encode (.struct s))) = .ok (.struct, .ofJson (StructSchema.codec.encode s)) :=
      splitTag_withTag (StructSchema.faithful_codec (nestingLimit - 5)) (by decide) rfl s
    have hdecode := (StructSchema.faithful_codec 0).decode_encode .buffered s
    exact (decode_of_splitTag medium hsplit).trans (congrArg (Except.map ModelSchema.struct) hdecode)
  | unknown n =>
    have hsplit : splitTag "internally tagged enum ModelSchema" "schema" Tag.variants
        (.ofJson (codec.encode (.unknown n))) =
          .ok (.unknown, .ofJson ((nameOnly "unknown").encode n)) :=
      splitTag_withTag (faithful_nameOnly "unknown" nestingLimit) (by decide) rfl n
    have hdecode := (faithful_nameOnly "struct variant ModelSchema::Unknown" 0).decode_encode
      .buffered n
    exact (decode_of_splitTag medium hsplit).trans (congrArg (Except.map ModelSchema.unknown) hdecode)

end ModelSchema

/-! ## Texts -/

namespace Codec

variable {α : Type} {c : Codec α}

/-- `rewrite c text`: reads a text and writes what was read. -/
def rewrite (c : Codec α) (text : String) : Except DecodeError String :=
  (c.readJson text).map fun a => (c.encode a).compact

/-- **`RoundTrips c`**: a value that is written, in either layout, is read back as that value, and a
text that comes from `rewrite` of a text that is accepted is not changed by rewriting it again. -/
structure RoundTrips (c : Codec α) : Prop where
  compact : ∀ a, c.readJson (c.encode a).compact = .ok a
  pretty : ∀ a, c.readJson (c.encode a).pretty = .ok a
  stable : ∀ text text', c.rewrite text = .ok text' → c.rewrite text' = .ok text'

/-- **A codec for which `decode` reads back what `encode` writes `RoundTrips`**, through texts. -/
theorem roundTrips (h : ∀ a, c.decode .json (.ofJson (c.encode a)) = .ok a) : c.RoundTrips := by
  have hread : ∀ text a, JsonReader.read text = ⟨.ofJson (c.encode a), false⟩ →
      c.readJson text = .ok a := by
    intro text a htext
    rw [readJson, htext]
    simp only [h a]
    rfl
  have hcompact : ∀ a, c.readJson (c.encode a).compact = .ok a :=
    fun a => hread _ a (JsonReader.read_compact _)
  refine ⟨hcompact, fun a => hread _ a (JsonReader.read_pretty _), fun text text' htext => ?_⟩
  -- The second text is that of the value that was read from the first.
  obtain ⟨a, -, rfl⟩ : ∃ a, c.readJson text = .ok a ∧ (c.encode a).compact = text' := by
    unfold rewrite at htext
    cases hvalue : c.readJson text with
    | error problem =>
      rw [hvalue] at htext
      exact absurd htext (by simp [Except.map])
    | ok a =>
      rw [hvalue] at htext
      exact ⟨a, rfl, Except.ok.inj htext⟩
  rw [rewrite, hcompact a]
  rfl

end Codec

/-- **All documents round trip.** `RoundTrips` holds of the codecs for methods, types and their
declarations, properties, aspects, schemas of every sort, diagnostics and configurations. -/
theorem documents_roundTrip :
    Method.codec.RoundTrips ∧ TypeDescriptor.codec.RoundTrips ∧ TypeDeclaration.codec.RoundTrips ∧
      BoundProperty.codec.RoundTrips ∧ SchemaAspect.codec.RoundTrips ∧
      ModelSchema.codec.RoundTrips ∧ Diagnostic.codec.RoundTrips ∧
      Configuration.codec.RoundTrips := by
  refine ⟨?_, ?_, ?_, ?_, ?_, ?_, ?_, ?_⟩
  · exact Codec.roundTrips ((Method.faithful_codec 0).decode_encode .json)
  · exact Codec.roundTrips ((TypeDescriptor.faithful_codec 0).decode_encode .json)
  · exact Codec.roundTrips ((TypeDeclaration.faithful_codec 0).decode_encode .json)
  · exact Codec.roundTrips ((BoundProperty.faithful_codec 0).decode_encode .json)
  · exact Codec.roundTrips ((SchemaAspect.faithful_codec 0).decode_encode .json)
  · exact Codec.roundTrips (ModelSchema.decode_encode .json)
  · exact Codec.roundTrips ((Diagnostic.faithful_codec 0).decode_encode .json)
  · exact Codec.roundTrips ((Configuration.faithful_codec 0).decode_encode .json)

end AccessorSchema
