import LiveText.Registry.Lookup
import LiveText.Text.Quoted

/-!
# Queries

A query asks a snapshot one question. It may name a reading or a kind by a word; a word that stands
for none is a fault of the query.
-/

set_option autoImplicit false

namespace LiveText

/-- A question about the known records. -/
inductive Query
  | byId (id : Text)
  | bySourceField (source field : Text)
  | recordsBySourceField (source field mode : Text)
  | byShortId (shortId : Text) (field : Option Text)
  | bySystemId (id : Text) (field kind : Option Text)
  | sourceId (source : Text)
  | byIdentifier (text : Text)

/-- What a query finds. -/
inductive Answer
  | record (r : Option Record)
  | records (rs : List Record)
  | id (id : Option Text)

/-- What can be wrong with a query. -/
inductive QueryFault
  | unknownMode (word : Text)
  | unknownKind (word : Text)
  deriving DecidableEq, Repr

/-- The fault in words. -/
def QueryFault.message : QueryFault → Text
  | unknownMode w => "Unknown match mode: ".toList ++ w
  | unknownKind w => Text.quoted w ++ " is not a valid VariableType".toList

/-- The word for a reading of names. -/
def MatchMode.word : MatchMode → String
  | exact => "exact"
  | loose => "casefold"
  | normal => "normalized"

/-- The reading that a word stands for. -/
def MatchMode.ofWord? (t : Text) : Option MatchMode :=
  [exact, loose, normal].find? fun m => m.word.toList == t

/-- The kind that a word stands for; it must stand for one. -/
def RecordKind.ofWord (t : Text) : Except QueryFault RecordKind :=
  match RecordKind.ofWord? t with
  | some k => .ok k
  | none => .error (.unknownKind t)

/-- Answers a query. A reading is looked at only where there are names to compare. -/
def Snapshot.answer (s : Snapshot) : Query → Except QueryFault Answer
  | .byId id => .ok (.record (s.findById id))
  | .bySourceField source field => .ok (.record (s.findBySourceField source field))
  | .recordsBySourceField source field mode =>
    if source.isEmpty || field.isEmpty then .ok (.records [])
    else match MatchMode.ofWord? mode with
      | some m => .ok (.records (s.recordsBySourceField m source field))
      | none => .error (.unknownMode mode)
  | .byShortId shortId field => .ok (.record (s.findByShortId shortId field))
  | .bySystemId id field kind =>
    match kind with
    | none | some [] => .ok (.record (s.findBySystemId id field))
    | some w => (RecordKind.ofWord w).map fun k => .record (s.findBySystemId id field (some k))
  | .sourceId source => .ok (.id (s.sourceIdFor source))
  | .byIdentifier text => .ok (.record (s.resolveText text))

end LiveText
