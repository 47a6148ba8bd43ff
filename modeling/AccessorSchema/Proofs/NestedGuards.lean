import AccessorSchema.Activity
import Mathlib.Data.List.Nodup

/-!
# Guards that are dropped in reverse order

A tracker keeps no stack of phases and none of types. It has one activity, and every guard remembers the
whole activity from before, phase and type together. If guards are dropped in reverse order of their
creation, this is as good as a stack for each of the two.

* **`LiveGuards`** — the guards that have not been dropped, with what each was created for;
* **`NestedRun`** — the uses of a tracker that drop guards in reverse order, and what is to be seen in them;
* **`ActivityTracker.Tracks`** — a tracker that is in accord with its live guards;
* **`ActivityTracker.current_drop_of_live`** — a dropped guard brings back what the guards outside it say;
* **`ActivityTracker.current_of_balanced`** — work that drops the guards it creates leaves no trace;
* **`ActivityTracker.shows_innermost`** — the activity is that of the innermost guards, all the time.
-/

namespace AccessorSchema

/-- `ActivityPart`: the part of an activity that is set when a guard is created, a `phase` or a
`type`. -/
inductive ActivityPart where
  | phase (p : Phase)
  | type (name : TypeName)
deriving DecidableEq, Repr

namespace ActivityPart

/-- `phase?`: the phase that is set, if it is a phase. -/
def phase? : ActivityPart → Option Phase
  | phase p => some p
  | type _ => none

/-- `type?`: the type that is set, if it is a type. -/
def type? : ActivityPart → Option TypeName
  | phase _ => none
  | type name => some name

end ActivityPart

/-! ## Live guards -/

/-- `LiveGuards`: the guards that have not been dropped, the innermost first, each with what it was
created for. -/
structure LiveGuards where
  live : List (Nat × ActivityPart) := []
  /-- `issued` tells how many guards have been created. -/
  issued : Nat := 0
  /-- Guards are numbered in the order of their creation, below `issued`. -/
  decreasing : (issued :: live.map (·.1)).Pairwise (· > ·) := by decide

/-- `phasesOf live`: the phases for which the `live` guards were created. -/
def phasesOf (live : List (Nat × ActivityPart)) : List Phase := live.filterMap (·.2.phase?)

/-- `typesOf live`: the types for which the `live` guards were created. -/
def typesOf (live : List (Nat × ActivityPart)) : List TypeName := live.filterMap (·.2.type?)

/-- **`activityOf live`: the activity that the `live` guards stand for**, with the phase of the
innermost guard of a phase, and the type of the innermost guard of a type. -/
def activityOf (live : List (Nat × ActivityPart)) : Activity :=
  ⟨(phasesOf live).head?, (typesOf live).head?⟩

namespace LiveGuards

variable (l : LiveGuards)

/-- `create l part`: a guard is created for `part`. -/
def create (part : ActivityPart) : LiveGuards where
  live := (l.issued, part) :: l.live
  issued := l.issued + 1
  decreasing := by
    refine List.pairwise_cons.2 ⟨fun n hn => ?_, l.decreasing⟩
    rcases List.mem_cons.1 hn with rfl | hn
    · exact Nat.lt_succ_self l.issued
    · exact Nat.lt_succ_of_lt (List.rel_of_pairwise_cons l.decreasing hn)

/-- `dropInnermost l`: the innermost guard is dropped. -/
def dropInnermost : LiveGuards where
  live := l.live.tail
  issued := l.issued
  decreasing := l.decreasing.sublist ((List.map_tail ▸ List.tail_sublist _).cons_cons _)

variable {l}

/-- No two guards of `live` have one number. -/
theorem number_not_mem {inner outer : List (Nat × ActivityPart)} {guard : Nat} {part : ActivityPart}
    (h : l.live = inner ++ (guard, part) :: outer) :
    guard ∉ inner.map (·.1) ∧ guard ∉ outer.map (·.1) := by
  have hnodup : (l.live.map (·.1)).Nodup := l.decreasing.of_cons.imp Nat.ne_of_gt
  rw [h, List.map_append, List.map_cons, List.nodup_middle, List.nodup_cons, List.mem_append,
    not_or] at hnodup
  exact hnodup.1

end LiveGuards

/-! ## Uses of a tracker -/

/-- `TrackerUse`: what is done with a tracker. -/
inductive TrackerUse where
  | set (part : ActivityPart)
  | drop (guard : Nat)
  | look
deriving DecidableEq, Repr

/-- **`NestedRun l uses seen last`: a run that drops guards in reverse order of their creation**,
from the live guards `l` to `last`, with the activities to be `seen` when one looks. -/
inductive NestedRun : LiveGuards → List TrackerUse → List Activity → LiveGuards → Prop
  | done {l : LiveGuards} : NestedRun l [] [] l
  | set {l last : LiveGuards} {part : ActivityPart} {uses : List TrackerUse} {seen : List Activity}
      (rest : NestedRun (l.create part) uses seen last) : NestedRun l (.set part :: uses) seen last
  /-- Only the guard in front of `live` may be dropped. -/
  | drop {l last : LiveGuards} {guard : Nat} {uses : List TrackerUse} {seen : List Activity}
      (innermost : l.live.head?.map (·.1) = some guard) (rest : NestedRun l.dropInnermost uses seen last) :
      NestedRun l (.drop guard :: uses) seen last
  | look {l last : LiveGuards} {uses : List TrackerUse} {seen : List Activity}
      (rest : NestedRun l uses seen last) :
      NestedRun l (.look :: uses) (activityOf l.live :: seen) last

namespace ActivityTracker

/-- `use t u`: the tracker after it has been used once. -/
def use (t : ActivityTracker) : TrackerUse → ActivityTracker
  | .set (.phase p) => t.setPhase p
  | .set (.type name) => t.setType name
  | .drop guard => t.drop guard
  | .look => t

/-- `useAll t uses`: the tracker after a number of `uses`. -/
def useAll (t : ActivityTracker) (uses : List TrackerUse) : ActivityTracker := uses.foldl use t

/-- `seen t uses`: what `current` is each time when one looks. -/
def seen (t : ActivityTracker) : List TrackerUse → List Activity
  | [] => []
  | .look :: uses => t.current :: t.seen uses
  | u :: uses => (t.use u).seen uses

/-! ## Trackers and live guards -/

/-- `remembered live`: what guards remember, each the `activityOf` those outside it. -/
def remembered : List (Nat × ActivityPart) → List (Nat × Activity)
  | [] => []
  | g :: outer => (g.1, activityOf outer) :: remembered outer

/-- **`Tracks t l`**: the tracker `t` is in accord with the live guards `l`. -/
structure Tracks (t : ActivityTracker) (l : LiveGuards) : Prop where
  current : t.current = activityOf l.live
  held : t.held = remembered l.live
  issued : t.issued = l.issued

variable {t : ActivityTracker} {l last : LiveGuards} {uses : List TrackerUse} {activities : List Activity}
  {inner outer : List (Nat × ActivityPart)} {guard : Nat} {part : ActivityPart}

theorem tracks_empty : Tracks {} {} := ⟨rfl, rfl, rfl⟩

@[simp] theorem map_fst_remembered (live : List (Nat × ActivityPart)) :
    (remembered live).map (·.1) = live.map (·.1) := by
  induction live with
  | nil => rfl
  | cons g outer ih => rw [remembered, List.map_cons, List.map_cons, ih]

/-- A guard has `remembered` the activity of the guards outside it. -/
theorem lookup_remembered (h : guard ∉ inner.map (·.1)) :
    (remembered (inner ++ (guard, part) :: outer)).lookup guard = some (activityOf outer) := by
  induction inner with
  | nil => exact List.lookup_cons_self
  | cons g inner ih =>
    rw [List.map_cons, List.mem_cons, not_or] at h
    rw [List.cons_append, remembered, List.lookup_cons, beq_eq_false_iff_ne.2 h.1]
    exact ih h.2

/-- Without the innermost guard, what is left is what the others have `remembered`. -/
theorem filter_remembered_cons (h : guard ∉ outer.map (·.1)) :
    (remembered ((guard, part) :: outer)).filter (·.1 ≠ guard) = remembered outer := by
  rw [remembered, List.filter_cons_of_neg (by simp), List.filter_eq_self]
  intro e he
  have hmem : e.1 ∈ outer.map (·.1) := map_fst_remembered outer ▸ List.mem_map_of_mem he
  exact decide_eq_true fun heq => h (heq ▸ hmem)

/-- What `drop` does with a guard that is live: the activity that it hides comes back. -/
theorem drop_of_live (ht : t.Tracks l) (hlive : l.live = inner ++ (guard, part) :: outer) :
    t.drop guard = { t with current := activityOf outer, held := t.held.filter (·.1 ≠ guard) } := by
  have hlookup : t.held.lookup guard = some (activityOf outer) := by
    rw [ht.held, hlive, lookup_remembered (LiveGuards.number_not_mem hlive).1]
  rw [drop, hlookup]

/-- **A dropped guard brings back the `activityOf` the guards outside it**, also if guards inside it
are live, whose settings are lost. -/
theorem current_drop_of_live (ht : t.Tracks l) (hlive : l.live = inner ++ (guard, part) :: outer) :
    (t.drop guard).current = activityOf outer := by
  rw [drop_of_live ht hlive]

example : (useAll {} [.set (.phase .loading), .set (.type "Person"), .drop 0]).current = {} := rfl

/-- **`set` on the tracker is `create` on the guards.** The other part of the activity stays what it
is. -/
theorem tracks_set (ht : t.Tracks l) (part : ActivityPart) :
    (t.use (.set part)).Tracks (l.create part) := by
  have hheld : (t.issued, t.current) :: t.held = remembered (l.create part).live := by
    rw [ht.issued, ht.current, ht.held]
    rfl
  have hissued : t.issued + 1 = (l.create part).issued := congrArg (· + 1) ht.issued
  -- A guard of a phase is passed over in the search for a type, and the other way round.
  cases part with
  | phase p =>
    have hcurrent : { t.current with phase := some p } = activityOf (l.create (.phase p)).live := by
      rw [ht.current]
      rfl
    exact ⟨hcurrent, hheld, hissued⟩
  | type name =>
    have hcurrent : { t.current with type := some name } = activityOf (l.create (.type name)).live := by
      rw [ht.current]
      rfl
    exact ⟨hcurrent, hheld, hissued⟩

/-- **`drop` of the innermost guard is `dropInnermost` on the guards.** -/
theorem tracks_drop (ht : t.Tracks l) (h : l.live.head?.map (·.1) = some guard) :
    (t.use (.drop guard)).Tracks l.dropInnermost := by
  -- There are no guards inside the one that is dropped, so what the others remember still holds.
  obtain ⟨⟨number, part⟩, hhead, rfl⟩ := Option.map_eq_some_iff.1 h
  obtain ⟨outer, hcons⟩ := List.head?_eq_some_iff.1 hhead
  have hlive : l.live = [] ++ (number, part) :: outer := hcons
  have houter : l.dropInnermost.live = outer := congrArg List.tail hlive
  have hheld : t.held.filter (·.1 ≠ number) = remembered outer := by
    rw [ht.held, hcons, filter_remembered_cons (LiveGuards.number_not_mem hlive).2]
  rw [use, drop_of_live ht hlive, hheld]
  exact ⟨congrArg activityOf houter.symm, congrArg remembered houter.symm, ht.issued⟩

/-! ## Runs -/

/-- **In a `NestedRun` the tracker stays in accord with its live guards**, and shows what is to be
seen. -/
theorem seen_eq_and_tracks (hrun : NestedRun l uses activities last) (ht : t.Tracks l) :
    t.seen uses = activities ∧ (t.useAll uses).Tracks last := by
  induction hrun generalizing t with
  | done => exact ⟨rfl, ht⟩
  | set _ ih => exact ih (tracks_set ht _)
  | drop innermost _ ih => exact ih (tracks_drop ht innermost)
  | look _ ih =>
    obtain ⟨hseen, hlast⟩ := ih ht
    refine ⟨?_, hlast⟩
    rw [seen, hseen, ht.current]

/-- **A `NestedRun` that drops the guards it creates leaves no trace** in `current`. -/
theorem current_of_balanced (ht : t.Tracks l) (hrun : NestedRun l uses activities last)
    (hlive : last.live = l.live) : (t.useAll uses).current = t.current := by
  rw [(seen_eq_and_tracks hrun ht).2.current, ht.current, hlive]

/-- All live guards can be dropped in a `NestedRun`, the innermost first. -/
theorem exists_nestedRun_dropAll (l : LiveGuards) :
    ∃ last, last.live = [] ∧ NestedRun l (l.live.map fun g => .drop g.1) [] last := by
  induction hlive : l.live generalizing l with
  | nil => exact ⟨l, hlive, .done⟩
  | cons g outer ih =>
    obtain ⟨last, hlast, hrun⟩ := ih l.dropInnermost (congrArg List.tail hlive)
    refine ⟨last, hlast, .drop ?_ hrun⟩
    rw [hlive]
    rfl

/-- After `dropAll` of the guards still held, nothing is worked on. -/
theorem current_dropAll (ht : t.Tracks l) : t.dropAll.current = {} := by
  obtain ⟨last, hlast, hrun⟩ := exists_nestedRun_dropAll l
  have hdrops : t.dropAll = t.useAll (l.live.map fun g => .drop g.1) := by
    rw [dropAll, useAll, ht.held, map_fst_remembered, List.foldl_map, List.foldl_map]
    rfl
  rw [hdrops, (seen_eq_and_tracks hrun ht).2.current, hlast]
  rfl

/-- **The activity is that of the innermost guards.** If guards are dropped in reverse order of
their creation, as in a `NestedRun`, everything that is `seen`, and the activity in the end, has the
phase of the innermost live guard of a phase and the type of the innermost live guard of a type: it
is their `activityOf`. Without live guards nothing is worked on, and neither is after `dropAll` of
those left. -/
theorem shows_innermost (hrun : NestedRun {} uses activities last) :
    seen {} uses = activities ∧
      (useAll {} uses).current = activityOf last.live ∧
      (last.live = [] → (useAll {} uses).current = {}) ∧
      (useAll {} uses).dropAll.current = {} := by
  obtain ⟨hseen, hlast⟩ := seen_eq_and_tracks hrun tracks_empty
  refine ⟨hseen, hlast.current, fun hlive => ?_, current_dropAll hlast⟩
  rw [hlast.current, hlive]
  rfl

/-- The type `Person` and the phase of a nested extraction end with it. -/
theorem nested_extraction_shown :
    seen {}
        [.set (.phase .hierarchyValidation), .set (.type "Person"), .set (.phase .propertyBinding), .look,
          .drop 2, .drop 1, .look] =
      [⟨some .propertyBinding, some "Person"⟩, ⟨some .hierarchyValidation, none⟩] :=
  (shows_innermost (.set <| .set <| .set <| .look <| .drop rfl <| .drop rfl <| .look .done)).1

end ActivityTracker

end AccessorSchema
