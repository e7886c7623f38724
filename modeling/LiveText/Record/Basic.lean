import LiveText.Record.Kind
import LiveText.Identifier.Basic

/-!
# Catalog records

A record is what one entry of the catalog comes down to: one field of one source, with its current
value. A source id owns at most one record per field, so the id and the field are the key of a
record.

## What is here

* `Record`, with its key and the identifiers that name it.
* `Record.distinct` keeps the first record of each key, `Record.merge` appends to one list what
  another one adds to it.
-/

set_option autoImplicit false

namespace LiveText

/-- One field of one source. -/
structure Record where
  id : Text
  sourceName : Text
  field : Text
  kind : RecordKind := .unknown
  value : Text := []
  name : Text := []
  identifier : Text := []
  sourceId : Option Text := none
  deriving DecidableEq

namespace Record

/-- The id and the field. -/
def key (r : Record) : Text × Text := (r.id, r.field)

/-- The start of the record's id; `length` may be negative, which leaves characters out at the
end. -/
def shortId (length : Int) (r : Record) : Text := Text.upTo length r.id

/-- The record's system identifier; the underscore is written even before an empty field. -/
def systemText (r : Record) : Text :=
  '@' :: (Identifier.systemMark ++ (r.id ++ '_' :: r.field))

/-- The record's display identifier; the number sign is written even before an empty short id. -/
def displayText (length : Int) (r : Record) : Text :=
  '@' :: (r.sourceName ++ '.' :: (r.field ++ '#' :: r.shortId length))

/-- The records of a list whose key is neither among `seen` nor that of an earlier record. -/
def distinctFrom (seen : List (Text × Text)) : List Record → List Record
  | [] => []
  | r :: rs => if r.key ∈ seen then distinctFrom seen rs else r :: distinctFrom (r.key :: seen) rs

/-- The first record of each key, in order. -/
def distinct (rs : List Record) : List Record := distinctFrom [] rs

/-- The records of two lists, in order; of several records with one key only the first is kept. -/
def merge (primary secondary : List Record) : List Record := distinct (primary ++ secondary)

end Record
end LiveText
