import LiveText.Registry.Snapshot
import LiveText.Identifier.Reader

/-!
# Looking records up

The questions that a snapshot answers: by id, by source and field, by the start of an id, by id and
field. Where several records answer, the first one in catalog order is taken. An empty name or id
finds nothing.

`Snapshot.resolve` finds the record that an identifier refers to.
-/

set_option autoImplicit false

namespace LiveText.Snapshot

/-- The first record with an id. -/
def findById (s : Snapshot) (id : Text) : Option Record :=
  if id.isEmpty then none else s.index.byId[id]?

/-- The records with a source and a field under a reading. -/
def recordsBySourceField (s : Snapshot) (mode : MatchMode) (source field : Text) : List Record :=
  if source.isEmpty || field.isEmpty then []
  else (s.index.bySourceField mode).getD (mode.pairKey source field) []

/-- The first record with a source and a field under the strictest reading that has one. -/
def findBySourceField (s : Snapshot) (source field : Text) : Option Record :=
  [MatchMode.exact, .loose, .normal].findSome? fun mode =>
    (s.recordsBySourceField mode source field).head?

/-- Whether the id of a record starts with a short id, without regard to case. -/
def startsWith (shortId : Text) (r : Record) : Bool :=
  (Text.fold shortId).isPrefixOf (Text.fold r.id)

/-- The first record whose id starts with a short id; where a field is given, one with that
field. -/
def findByShortId (s : Snapshot) (shortId : Text) (field : Option Text) : Option Record :=
  if shortId.isEmpty then none
  else s.records.find? fun r => startsWith shortId r && field.all (r.field == ·)

/-- The first record with an id and a field, or else the first with the id whose field differs only
in case. -/
def findByIdAndField (s : Snapshot) (id field : Text) : Option Record :=
  (s.index.byKey[(id, field)]?).or
    (s.records.find? fun r => r.id == id && Text.fold r.field == Text.fold field)

/-- The record that an id names, with a field where one is given. Where a kind is given, the record
must be of that kind. -/
def findBySystemId (s : Snapshot) (id : Text) (field : Option Text)
    (kind : Option RecordKind := none) : Option Record :=
  if id.isEmpty then none
  else
    let found := match field with
      | none | some [] => s.findById id
      | some f => s.findByIdAndField id f
    found.filter fun r => kind.all (r.kind == ·)

/-- The id of the first record of a source; a name that agrees exactly goes before one that agrees
in normal form. -/
def sourceIdFor (s : Snapshot) (source : Text) : Option Text :=
  if source.isEmpty then none
  else
    let key := Text.normalKey source
    ((s.records.find? (·.sourceName == source)).or
      (s.records.find? fun r => Text.normalKey r.sourceName == key)).map Record.id

/-- The record that an identifier refers to. A system identifier is looked up by its id and field.
For a display identifier the answers are tried from the most to the least precise: the exact source
and field with the short id, the exact source and field, the source and field without regard to
case, the short id with the same field. -/
def resolve (s : Snapshot) : Identifier → Option Record
  | .system id field => s.findBySystemId id field
  | .legacy _ id field => s.findBySystemId id (some field)
  | .display source field shortId =>
    let exact := s.recordsBySourceField .exact source field
    (shortId.bind fun h => if h.isEmpty then none else exact.find? (startsWith h)).or
      (exact.head?.or
        ((s.recordsBySourceField .loose source field).head?.or
          (shortId.bind fun h => s.findByShortId h (some field))))

/-- The record that a single written identifier refers to. -/
def resolveText (s : Snapshot) (t : Text) : Option Record :=
  (Identifier.parse? t).bind s.resolve

end LiveText.Snapshot
