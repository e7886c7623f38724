import LiveText.Forms
import LiveText.Proofs.Registry.Lookup

/-!
# Lookups do not look at values

What is found among some records does not depend on their values: a lookup finds a record without its
value among the records without their values (`Snapshot.emptied`). The same goes for what is written
for an identifier in the two forms of a text.

This is the one-run half of what is said about two registries that differ in their values: each of
them gives what the registry without values gives, and that is one and the same registry.

## What is here

* `Record.emptied` and `Snapshot.emptied` leave the values out.
* `find?_emptied` and `filter_emptied`: a question that does not look at values has the same answer.
* One equation for each lookup; **`resolve_emptied`** is the one for identifiers.
* `systemFor_emptied` and `displayFor_emptied` for the two forms.
-/

set_option autoImplicit false

namespace LiveText

namespace Record

/-- The record without its value. -/
def emptied (r : Record) : Record := { r with value := [] }

/-- The first record that answers a question which does not look at values. -/
theorem find?_emptied {p : Record → Bool} (hp : ∀ r : Record, p r.emptied = p r)
    (rs : List Record) : (rs.map emptied).find? p = (rs.find? p).map emptied := by
  rw [List.find?_map, show p ∘ emptied = p from funext hp]

/-- All records that answer a question which does not look at values. -/
theorem filter_emptied {p : Record → Bool} (hp : ∀ r : Record, p r.emptied = p r)
    (rs : List Record) : (rs.map emptied).filter p = (rs.filter p).map emptied := by
  rw [List.filter_map, show p ∘ emptied = p from funext hp]

end Record

namespace Snapshot

/-- The snapshot without the values of its records. -/
def emptied (s : Snapshot) : Snapshot := ofRecords (s.records.map Record.emptied)

@[simp]
theorem records_emptied (s : Snapshot) : s.emptied.records = s.records.map Record.emptied := rfl

section
variable (s : Snapshot)

/-! ## Lookups -/

theorem findById_emptied (id : Text) :
    s.emptied.findById id = (s.findById id).map Record.emptied := by
  rw [findById, findById, byId_eq, byId_eq, records_emptied, Record.find?_emptied fun _ => rfl]
  split
  · rfl
  · rfl

theorem recordsBySourceField_emptied (mode : MatchMode) (source field : Text) :
    s.emptied.recordsBySourceField mode source field =
      (s.recordsBySourceField mode source field).map Record.emptied := by
  rw [recordsBySourceField_eq, recordsBySourceField_eq, records_emptied,
    Record.filter_emptied fun _ => rfl]
  split
  · rfl
  · rfl

theorem head?_recordsBySourceField_emptied (mode : MatchMode) (source field : Text) :
    (s.emptied.recordsBySourceField mode source field).head? =
      (s.recordsBySourceField mode source field).head?.map Record.emptied := by
  rw [recordsBySourceField_emptied, List.head?_map]

theorem findBySourceField_emptied (source field : Text) :
    s.emptied.findBySourceField source field =
      (s.findBySourceField source field).map Record.emptied := by
  rw [findBySourceField, findBySourceField, List.map_findSome?]
  simp only [head?_recordsBySourceField_emptied, Function.comp_def]

theorem findByShortId_emptied (shortId : Text) (field : Option Text) :
    s.emptied.findByShortId shortId field =
      (s.findByShortId shortId field).map Record.emptied := by
  rw [findByShortId, findByShortId, records_emptied, Record.find?_emptied fun _ => rfl]
  split
  · rfl
  · rfl

theorem bind_findByShortId_emptied (shortId field : Option Text) :
    (shortId.bind fun h => s.emptied.findByShortId h field) =
      (shortId.bind fun h => s.findByShortId h field).map Record.emptied := by
  rw [Option.map_bind]
  exact congrArg shortId.bind (funext fun h => s.findByShortId_emptied h field)

theorem findByIdAndField_emptied (id field : Text) :
    s.emptied.findByIdAndField id field = (s.findByIdAndField id field).map Record.emptied := by
  rw [findByIdAndField_eq, findByIdAndField_eq, records_emptied, Record.find?_emptied fun _ => rfl,
    Record.find?_emptied fun _ => rfl, Option.map_or]

theorem findBySystemId_emptied (id : Text) (field : Option Text) (kind : Option RecordKind) :
    s.emptied.findBySystemId id field kind =
      (s.findBySystemId id field kind).map Record.emptied := by
  have hkind : ∀ found : Option Record,
      (found.map Record.emptied).filter (fun r => kind.all (r.kind == ·)) =
        (found.filter fun r => kind.all (r.kind == ·)).map Record.emptied := fun found =>
    Option.filter_map
  unfold findBySystemId
  split
  · rfl
  · dsimp only
    rw [← hkind]
    split
    · rw [findById_emptied]
    · rw [findById_emptied]
    · rw [findByIdAndField_emptied]

theorem sourceIdFor_emptied (source : Text) :
    s.emptied.sourceIdFor source = s.sourceIdFor source := by
  unfold sourceIdFor
  split
  · rfl
  · dsimp only
    rw [records_emptied, Record.find?_emptied fun _ => rfl, Record.find?_emptied fun _ => rfl,
      ← Option.map_or, Option.map_map]
    rfl

/-- **An identifier refers to the same record, whatever the values are.** -/
theorem resolve_emptied (i : Identifier) :
    s.emptied.resolve i = (s.resolve i).map Record.emptied := by
  cases i with
  | system id field => exact s.findBySystemId_emptied id field none
  | legacy kind id field => exact s.findBySystemId_emptied id (some field) none
  | display source field shortId =>
    have hexact : (shortId.bind fun h => if h.isEmpty then none else
          (s.emptied.recordsBySourceField .exact source field).find? (startsWith h)) =
        (shortId.bind fun h => if h.isEmpty then none else
          (s.recordsBySourceField .exact source field).find? (startsWith h)).map Record.emptied := by
      cases shortId with
      | none => rfl
      | some h =>
        rw [Option.bind_some, Option.bind_some, recordsBySourceField_emptied,
          Record.find?_emptied fun _ => rfl]
        split
        · rfl
        · rfl
    rw [resolve, resolve, hexact, bind_findByShortId_emptied, head?_recordsBySourceField_emptied,
      head?_recordsBySourceField_emptied, Option.map_or, Option.map_or, Option.map_or]

/-! ## The two forms -/

theorem systemFor_emptied (i : Identifier) : s.emptied.systemFor i = s.systemFor i := by
  cases i with
  | system id field => rfl
  | legacy kind id field => rfl
  | display source field shortId =>
    rw [systemFor, systemFor, bind_findByShortId_emptied, sourceIdFor_emptied, Option.map_map]
    rfl

theorem displayFor_emptied (n : Int) (i : Identifier) :
    s.emptied.displayFor n i = s.displayFor n i := by
  cases i with
  | system id field =>
    cases field with
    | none =>
      rw [displayFor, displayFor, findById_emptied, Option.map_map]
      rfl
    | some field =>
      rw [displayFor, displayFor, displayForSystem, displayForSystem, findBySystemId_emptied,
        Option.map_map]
      rfl
  | legacy kind id field =>
    rw [displayFor, displayFor, displayForSystem, displayForSystem, findBySystemId_emptied,
      Option.map_map]
    rfl
  | display source field shortId =>
    rw [displayFor, displayFor]
    refine congrArg (Option.map _) ?_
    unfold renamedSource
    cases shortId with
    | none =>
      dsimp only
      rw [findBySourceField_emptied]
      cases s.findBySourceField source field with
      | none => rfl
      | some r => rfl
    | some h =>
      dsimp only
      rw [findByShortId_emptied, findByShortId_emptied, ← Option.map_or]
      cases (s.findByShortId h (some field)).or (s.findByShortId h none) with
      | none => rfl
      | some r => rfl

end

end Snapshot
end LiveText
