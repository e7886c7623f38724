import LiveText.Registry.Lookup
import LiveText.Identifier.Separation

/-!
# Resolving a text

`Snapshot.resolveIn` puts the current value of its record in the place of every identifier of a
text. An identifier that refers to no record stays as it is written, and a value is put in as it
is, also where it holds identifiers itself.
-/

set_option autoImplicit false

namespace LiveText

/-- The identifiers of a text once it is separated, in order. -/
def identifiers (t : Text) : List Identifier := (separatedOccurrences t).map (·.identifier)

namespace Snapshot

/-- What stands for an identifier in a resolved text. -/
def valueFor (s : Snapshot) (i : Identifier) : Text :=
  match s.resolve i with
  | some r => r.value
  | none => i.text

/-- The text with the values of its identifiers. -/
def resolveIn (s : Snapshot) (t : Text) : Text := substitute s.valueFor (tokens (separate t))

/-- The identifiers of a text that refer to no record, as they are written, each one once. -/
def unresolvedIn (s : Snapshot) (t : Text) : List Text :=
  (((identifiers t).filter fun i => (s.resolve i).isNone).map Identifier.text).eraseDups

/-- The records that the identifiers of a text refer to, each one once. -/
def usedIn (s : Snapshot) (t : Text) : List Record :=
  Record.distinct ((identifiers t).filterMap s.resolve)

end Snapshot
end LiveText
