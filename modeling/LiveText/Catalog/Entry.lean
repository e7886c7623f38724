import LiveText.Record.Basic
import LiveText.Identifier.Reader

/-!
# Catalog entries

The catalog describes each variable by an entry, an object whose members have changed over time.
`record?` brings an entry into the shape of a record.

Where an entry carries a full system identifier, that identifier decides on the id and the field. A
display identifier names the source and the field. Otherwise the id is that of the source the entry
belongs to, and the field is that of the entry. An entry for which no id or no field can be found
gives no record.
-/

set_option autoImplicit false

namespace LiveText.Catalog

/-- Something in the place of an entry that has no members. -/
structure NotAnEntry where
  kindWord : String
  deriving DecidableEq, Repr

/-- What is wrong with it, in words. -/
def NotAnEntry.message (e : NotAnEntry) : Text :=
  ("'" ++ e.kindWord ++ "' object has no attribute 'get'").toList

/-- What the identifier of an entry says about the record. -/
structure Named where
  id : Option Text := none
  sourceName : Option Text := none
  field : Option Text := none

/-- Reads the identifier of an entry. A system identifier counts only with its field. -/
def Named.ofIdentifier (t : Text) : Named :=
  match Identifier.parse? t with
  | some (.display source field _) => { sourceName := some source, field := some field }
  | some (.system id (some field)) => { id := some id, field := some field }
  | some (.legacy _ id field) => { id := some id, field := some field }
  | _ => {}

/-- The text of a member, empty where the member counts as missing. -/
def textOf (key : String) (entry : Value) : Text :=
  ((entry.getPresent? key).map Value.written).getD []

/-- The record that an entry stands for. -/
def recordOf (entry : Value) : Option Record :=
  let source := entry.get "source"
  let name := textOf "name" entry
  let identifier := textOf "identifier" entry
  let named := Named.ofIdentifier identifier
  let sourceId := (source.getPresent? "id").map Value.written
  let member (key : String) : Option Text := (entry.getPresent? key).map Value.written
  let nonempty (t : Text) : Option Text := if t.isEmpty then none else some t
  let id := named.id.or (sourceId.or ((member "sourceId").or (member "id")))
  let field := named.field.or ((member "field").or (nonempty name))
  let sourceName := ((source.getPresent? "name").map Value.written).or
    ((member "sourceName").or ((member "source_name").or (named.sourceName.or (nonempty name))))
  match id, field with
  | some id, some field =>
    some {
      id, field
      sourceName := sourceName.getD []
      kind := RecordKind.ofCatalog (entry.get "type")
      value := match entry.get "value" with
        | .null => []
        | v => v.written
      name, identifier, sourceId }
  | _, _ => none

/-- The record that an entry stands for; only objects are entries. -/
def record? (entry : Value) : Except NotAnEntry (Option Record) :=
  if entry.isObject then .ok (recordOf entry) else .error ⟨entry.kindWord⟩

/-- The records that a list of entries stands for, the first one of each key. -/
def records (entries : List Value) : Except NotAnEntry (List Record) :=
  (entries.mapM record?).map fun rs => Record.distinct (rs.filterMap id)

/-! ## Envelopes -/

/-- The entries in the answer of a catalog: a list, or a list under `data`, or one under `data`
twice. What is no object is left out; an answer of another shape holds no entries. -/
def entriesOf (answer : Value) : List Value :=
  match answer with
  | .list items => items.filter Value.isObject
  | _ =>
    match answer.get "data" with
    | .list items => items.filter Value.isObject
    | inner =>
      match inner.get "data" with
      | .list items => items.filter Value.isObject
      | _ => []

end LiveText.Catalog
