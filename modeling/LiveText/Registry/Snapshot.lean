import Std.Data.HashMap
import LiveText.Record.Basic
import LiveText.Text.Key

/-!
# Snapshots of the known records

A snapshot is the list of the records that are known at one time, in catalog order, together with
indexes for the lookups. The indexes hold nothing of their own: they are built in one pass from the
records, and each of them answers what a walk over the records would find (`byKey_eq`, `byId_eq`,
`bySourceField_eq`).
-/

set_option autoImplicit false

namespace LiveText

/-! ## Readings of names -/

/-- How closely the names of a query and of a record must agree. -/
inductive MatchMode
  /-- character by character -/
  | exact
  /-- without regard to case and to blanks around them -/
  | loose
  /-- in normal form -/
  | normal
  deriving DecidableEq, Repr

namespace MatchMode

/-- The key of a name under a reading. -/
def nameKey : MatchMode → Text → Text
  | exact, t => t
  | loose, t => Text.looseKey t
  | normal, t => Text.normalKey t

/-- The key of a source and a field under a reading. -/
def pairKey (m : MatchMode) (source field : Text) : Text × Text :=
  (m.nameKey source, m.nameKey field)

/-- The key of a record's source and field under a reading. -/
def recordKey (m : MatchMode) (r : Record) : Text × Text := m.pairKey r.sourceName r.field

end MatchMode

/-! ## Indexes -/

section
variable {κ : Type} [BEq κ] [Hashable κ]

/-- The first record under each key. -/
def firstBy (key : Record → κ) (rs : List Record) : Std.HashMap κ Record :=
  rs.foldr (fun r m => m.insert (key r) r) ∅

/-- All records under each key, in order. -/
def groupBy (key : Record → κ) (rs : List Record) : Std.HashMap κ (List Record) :=
  rs.foldr (fun r m => m.insert (key r) (r :: m.getD (key r) [])) ∅

variable [LawfulBEq κ] [LawfulHashable κ]

/-- The index of first records answers what a walk finds. -/
theorem getElem?_firstBy (key : Record → κ) (rs : List Record) (k : κ) :
    (firstBy key rs)[k]? = rs.find? fun r => key r == k := by
  induction rs with
  | nil => simp [firstBy]
  | cons r rs ih =>
    simp only [firstBy, List.foldr_cons, Std.HashMap.getElem?_insert, List.find?_cons]
    cases h : key r == k
    · simpa [firstBy] using ih
    · simp

/-- The index of groups answers what a walk finds. -/
theorem getD_groupBy (key : Record → κ) (rs : List Record) (k : κ) :
    (groupBy key rs).getD k [] = rs.filter fun r => key r == k := by
  induction rs with
  | nil => simp [groupBy]
  | cons r rs ih =>
    simp only [groupBy, List.foldr_cons, Std.HashMap.getD_insert, List.filter_cons]
    cases h : key r == k
    · simpa [groupBy] using ih
    · have hk : key r = k := eq_of_beq h
      subst hk
      simpa [groupBy] using ih

end

/-- The indexes of a snapshot. -/
structure RecordIndex where
  byKey : Std.HashMap (Text × Text) Record
  byId : Std.HashMap Text Record
  exact : Std.HashMap (Text × Text) (List Record)
  loose : Std.HashMap (Text × Text) (List Record)
  normal : Std.HashMap (Text × Text) (List Record)

namespace RecordIndex

/-- The indexes of a list of records. -/
def ofRecords (rs : List Record) : RecordIndex where
  byKey := firstBy Record.key rs
  byId := firstBy Record.id rs
  exact := groupBy (MatchMode.recordKey .exact) rs
  loose := groupBy (MatchMode.recordKey .loose) rs
  normal := groupBy (MatchMode.recordKey .normal) rs

/-- The index of sources and fields under a reading. -/
def bySourceField (i : RecordIndex) : MatchMode → Std.HashMap (Text × Text) (List Record)
  | .exact => i.exact
  | .loose => i.loose
  | .normal => i.normal

end RecordIndex

/-! ## Snapshots -/

/-- The records that are known at one time, with their indexes. -/
structure Snapshot where
  records : List Record
  index : RecordIndex
  /-- The indexes are those of the records. -/
  index_eq : index = RecordIndex.ofRecords records

namespace Snapshot

/-- The snapshot of a list of records. -/
def ofRecords (rs : List Record) : Snapshot := ⟨rs, RecordIndex.ofRecords rs, rfl⟩

/-- The snapshot in which nothing is known. -/
def empty : Snapshot := ofRecords []

/-- A snapshot is determined by its records. -/
theorem eq_of_records {s t : Snapshot} (h : s.records = t.records) : s = t := by
  obtain ⟨rs, i, hi⟩ := s
  obtain ⟨rs', i', hi'⟩ := t
  simp only at h
  subst h
  subst hi hi'
  rfl

/-- The index by key finds the first record with the key. -/
theorem byKey_eq (s : Snapshot) (k : Text × Text) :
    s.index.byKey[k]? = s.records.find? fun r => r.key == k := by
  rw [s.index_eq]
  exact getElem?_firstBy Record.key s.records k

/-- The index by id finds the first record with the id. -/
theorem byId_eq (s : Snapshot) (k : Text) :
    s.index.byId[k]? = s.records.find? fun r => r.id == k := by
  rw [s.index_eq]
  exact getElem?_firstBy Record.id s.records k

/-- The index by source and field finds the records with the key, in order. -/
theorem bySourceField_eq (s : Snapshot) (m : MatchMode) (k : Text × Text) :
    (s.index.bySourceField m).getD k [] = s.records.filter fun r => m.recordKey r == k := by
  rw [s.index_eq]
  cases m <;> exact getD_groupBy _ s.records k

end Snapshot
end LiveText
