import LiveText.Proofs.Registry.Lookup
import LiveText.Registry.Basic

/-!
# Lookups as walks over the records

A lookup in a registry goes through indexes that were built in one pass, and falls back from one index
to the next. What it answers can be told from the list of the records alone: from the records that
answer each question, in catalog order, and from the order of the questions (`firstOf`).

## What is here

* `MatchMode.agrees` says which records have a source and a field under a reading, `displayTiers`
  which ones a display identifier may refer to, from the most to the least precise.
* One equation for each lookup, `findById_eq` to `resolve_display_eq`.
* `Registry.AnswersByWalking` puts them together; **`answersByWalking`** says that every registry
  answers so, whatever happened to it, and whatever the keys of its names are.
-/

set_option autoImplicit false

namespace LiveText

/-! ## Walking over records -/

/-- Whether a record has a source and a field under a reading. -/
def MatchMode.agrees (mode : MatchMode) (source field : Text) (r : Record) : Bool :=
  mode.nameKey r.sourceName == mode.nameKey source && mode.nameKey r.field == mode.nameKey field

/-- The first record of the first list that is not empty. -/
def firstOf (tiers : List (List Record)) : Option Record :=
  (tiers.find? fun rs => !rs.isEmpty).bind List.head?

@[simp]
theorem firstOf_nil : firstOf [] = none := rfl

@[simp]
theorem firstOf_cons (rs : List Record) (tiers : List (List Record)) :
    firstOf (rs :: tiers) = rs.head?.or (firstOf tiers) := by
  cases rs with
  | nil => rfl
  | cons r rs => rfl

theorem firstOf_eq_findSome? (tiers : List (List Record)) :
    firstOf tiers = tiers.findSome? List.head? := by
  induction tiers with
  | nil => rfl
  | cons rs tiers ih =>
    rw [firstOf_cons, ih, List.findSome?_cons]
    cases rs.head? with
    | none => rfl
    | some r => rfl

namespace Snapshot

/-- The records that a display identifier may refer to: those with its source and its field that its
short id starts, those with its source and its field, those where these differ in case, and those with
its field that its short id starts. -/
def displayTiers (rs : List Record) (source field : Text) (shortId : Option Text) :
    List (List Record) :=
  [rs.filter fun r => MatchMode.exact.agrees source field r && shortId.any (startsWith · r),
   rs.filter (MatchMode.exact.agrees source field),
   rs.filter (MatchMode.loose.agrees source field),
   rs.filter fun r => r.field == field && shortId.any (startsWith · r)]

/-! ## One equation for each lookup -/

section
variable (s : Snapshot) {id source field : Text}

theorem findById_eq (hid : id ≠ []) : s.findById id = s.records.find? fun r => r.id == id := by
  have hempty : ¬id.isEmpty = true := by simpa using hid
  rw [findById, if_neg hempty, byId_eq]

theorem recordsBySourceField_of_ne_nil (mode : MatchMode) (hsource : source ≠ [])
    (hfield : field ≠ []) :
    s.recordsBySourceField mode source field = s.records.filter (mode.agrees source field) := by
  have hempty : ¬(source.isEmpty || field.isEmpty) = true := by simp [hsource, hfield]
  rw [recordsBySourceField_eq, if_neg hempty]
  rfl

theorem findBySourceField_eq (hsource : source ≠ []) (hfield : field ≠ []) :
    s.findBySourceField source field =
      firstOf ([MatchMode.exact, .loose, .normal].map fun mode =>
        s.records.filter (mode.agrees source field)) := by
  rw [findBySourceField, firstOf_eq_findSome?, List.findSome?_map]
  simp only [s.recordsBySourceField_of_ne_nil _ hsource hfield, Function.comp_def]

theorem findBySystemId_eq (hid : id ≠ []) (hfield : field ≠ []) :
    s.findBySystemId id (some field) =
      firstOf [s.records.filter fun r => r.id == id && r.field == field,
        s.records.filter fun r => r.id == id && Text.fold r.field == Text.fold field] := by
  rw [findBySystemId_of_ne_nil s hid hfield, findByIdAndField_eq, firstOf_cons, firstOf_cons,
    firstOf_nil, Option.or_none, List.head?_filter, List.head?_filter]
  rfl

/-- Of a short id that is not empty nothing is left out. -/
theorem bind_of_ne_nil {shortId : Option Text} (hshort : shortId ≠ some [])
    (f : Text → Option Record) :
    (shortId.bind fun h => if h.isEmpty then none else f h) = shortId.bind f := by
  cases shortId with
  | none => rfl
  | some h =>
    have hempty : ¬h.isEmpty = true := by simpa using hshort
    rw [Option.bind_some, Option.bind_some, if_neg hempty]

/-- The first record of a kind that the short id starts, if there is a short id. -/
theorem bind_find?_startsWith (p : Record → Bool) (rs : List Record) (shortId : Option Text) :
    (shortId.bind fun h => rs.find? fun r => p r && startsWith h r) =
      (rs.filter fun r => p r && shortId.any (startsWith · r)).head? := by
  rw [List.head?_filter]
  cases shortId with
  | none => exact (List.find?_eq_none.2 fun r _ => by simp).symm
  | some h => rfl

/-- The records that the short id starts are looked for among those with the source and the field. -/
theorem find?_exact_eq {shortId : Option Text} (hshort : shortId ≠ some []) :
    (shortId.bind fun h => if h.isEmpty then none else
      (s.records.filter (MatchMode.exact.agrees source field)).find? (startsWith h)) =
    (s.records.filter fun r =>
      MatchMode.exact.agrees source field r && shortId.any (startsWith · r)).head? := by
  rw [bind_of_ne_nil hshort, ← bind_find?_startsWith]
  simp only [List.find?_filter, Bool.decide_and, Bool.decide_eq_true]

theorem findByShortId_eq (field : Text) {shortId : Option Text} (hshort : shortId ≠ some []) :
    (shortId.bind fun h => s.findByShortId h (some field)) =
      (s.records.filter fun r => r.field == field && shortId.any (startsWith · r)).head? := by
  simp only [findByShortId]
  rw [bind_of_ne_nil hshort, ← bind_find?_startsWith]
  simp only [Option.all_some, Bool.and_comm]

theorem resolve_display_eq (hsource : source ≠ []) (hfield : field ≠ []) {shortId : Option Text}
    (hshort : shortId ≠ some []) :
    s.resolve (.display source field shortId) =
      firstOf (displayTiers s.records source field shortId) := by
  rw [resolve, s.recordsBySourceField_of_ne_nil _ hsource hfield,
    s.recordsBySourceField_of_ne_nil _ hsource hfield, s.find?_exact_eq hshort,
    s.findByShortId_eq field hshort, displayTiers]
  simp only [firstOf_cons, firstOf_nil, Option.or_none]

end

end Snapshot

/-! ## The lookups of a registry -/

/-- What the lookups of a registry answer, told by its records in catalog order. -/
structure Registry.AnswersByWalking (g : Registry) : Prop where
  findById : ∀ id, id ≠ [] → g.snapshot.findById id = g.records.find? fun r => r.id == id
  /-- the records with a source and a field under a reading are all found, in order -/
  records : ∀ (mode : MatchMode) (source field : Text), source ≠ [] → field ≠ [] →
    g.snapshot.recordsBySourceField mode source field = g.records.filter (mode.agrees source field)
  /-- also under any other reading that the index might be built by -/
  reading : ∀ (key : Text → Text) (source field : Text),
    (groupBy (fun r => (key r.sourceName, key r.field)) g.records).getD (key source, key field) [] =
      g.records.filter fun r => key r.sourceName == key source && key r.field == key field
  /-- the strictest reading goes first -/
  findBySourceField : ∀ source field, source ≠ [] → field ≠ [] →
    g.snapshot.findBySourceField source field =
      firstOf ([MatchMode.exact, .loose, .normal].map fun mode =>
        g.records.filter (mode.agrees source field))
  /-- a field that is the same goes before one that differs in case -/
  findBySystemId : ∀ id field, id ≠ [] → field ≠ [] →
    g.snapshot.findBySystemId id (some field) =
      firstOf [g.records.filter fun r => r.id == id && r.field == field,
        g.records.filter fun r => r.id == id && Text.fold r.field == Text.fold field]
  /-- the most precise answers to a display identifier go first -/
  display : ∀ source field shortId, source ≠ [] → field ≠ [] → shortId ≠ some [] →
    g.snapshot.resolve (.display source field shortId) =
      firstOf (Snapshot.displayTiers g.records source field shortId)

/-- **Indexed lookups are walks over the records**: the first record in catalog order of the best
kind that there is. -/
theorem Registry.answersByWalking (g : Registry) : g.AnswersByWalking where
  findById _ hid := g.snapshot.findById_eq hid
  records mode _ _ hsource hfield := g.snapshot.recordsBySourceField_of_ne_nil mode hsource hfield
  reading _ _ _ := getD_groupBy _ g.records _
  findBySourceField _ _ hsource hfield := g.snapshot.findBySourceField_eq hsource hfield
  findBySystemId _ _ hid hfield := g.snapshot.findBySystemId_eq hid hfield
  display _ _ _ hsource hfield hshort := g.snapshot.resolve_display_eq hsource hfield hshort

/-- Two records of one name and field, one that differs from them in case, and one of another source
whose id begins like theirs. -/
theorem Registry.answersByWalking_ties :
    let record (id source field : String) : Record :=
      { id := id.toList, sourceName := source.toList, field := field.toList }
    let g := ({} : Registry).register
      [record "a1b2" "npc" "hp", record "a1c3" "npc" "hp", record "a1c3" "NPC" "HP",
        record "a1c3d4" "pc" "mp"]
    let resolve (source field : String) (shortId : Option String) : Option Record :=
      g.snapshot.resolve (.display source.toList field.toList (shortId.map String.toList))
    resolve "npc" "hp" (some "A1C3") = some (record "a1c3" "npc" "hp") ∧
      resolve "npc" "hp" (some "zzzz") = some (record "a1b2" "npc" "hp") ∧
      resolve "Npc" "hP" none = some (record "a1b2" "npc" "hp") ∧
      resolve "other" "mp" (some "a1c3") = some (record "a1c3d4" "pc" "mp") ∧
      g.snapshot.findBySystemId "a1c3".toList (some "HP".toList) = some (record "a1c3" "NPC" "HP") ∧
      g.snapshot.findById "a1c3".toList = some (record "a1c3" "npc" "hp") := by
  intro record g resolve
  have h := g.answersByWalking
  refine ⟨(h.display _ _ _ ?_ ?_ ?_).trans ?_, (h.display _ _ _ ?_ ?_ ?_).trans ?_,
    (h.display _ _ _ ?_ ?_ ?_).trans ?_, (h.display _ _ _ ?_ ?_ ?_).trans ?_,
    (h.findBySystemId _ _ ?_ ?_).trans ?_, (h.findById _ ?_).trans ?_⟩
  all_goals decide +kernel

end LiveText
