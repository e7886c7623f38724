import LiveText.Registry.Lookup
import LiveText.Identifier.Separation
import LiveText.Identifier.Repeats

/-!
# The two forms of a text

Display identifiers show the name of a source, which may change; system identifiers hold its id,
which does not. Texts are stored in *system form* and edited in *display form*. Both passes replace
identifiers in place and leave as it is what they cannot resolve.

A pass that changed the text is an `Update`, which the surfaces that show the text are told of.
-/

set_option autoImplicit false

namespace LiveText

namespace Snapshot

/-! ## Single identifiers -/

/-- The system identifier for a display identifier. The short id goes before the name of the
source, since several sources may share a name. -/
def systemFor (s : Snapshot) : Identifier → Option Text
  | .display source field shortId =>
    let byShortId := (shortId.bind fun h => s.findByShortId h (some field)).map Record.id
    (byShortId.or (s.sourceIdFor source)).map fun id => (Identifier.system id (some field)).text
  | _ => none

/-- The display identifier for a record under a field. -/
def displayOf (length : Int) (field : Text) (r : Record) : Text :=
  (Identifier.display r.sourceName field (some (r.shortId length))).text

/-- The display identifier for a system identifier with its field. -/
def displayForSystem (s : Snapshot) (length : Int) (id field : Text) : Option Text :=
  (s.findBySystemId id (some field)).map (displayOf length field)

/-- The current name for the source of a display identifier. A source that was made up by an author
keeps the name that the author gave it. -/
def renamedSource (s : Snapshot) (source field : Text) (shortId : Option Text) : Option Text :=
  let found := match shortId with
    | some h => (s.findByShortId h (some field)).or (s.findByShortId h none)
    | none => s.findBySourceField source field
  match found with
  | some r => if r.sourceName = source ∨ r.kind = .custom then none else some r.sourceName
  | none => none

/-- The up-to-date display identifier for an identifier, unless it is up to date. -/
def displayFor (s : Snapshot) (length : Int) : Identifier → Option Text
  | .system id (some field) => s.displayForSystem length id field
  | .system id none => (s.findById id).map fun r => displayOf length r.field r
  | .legacy _ id field => s.displayForSystem length id field
  | .display source field shortId =>
    (s.renamedSource source field shortId).map fun name =>
      (Identifier.display name field shortId).text

/-! ## Texts -/

/-- The text with every display identifier that can be resolved in system form. -/
def toSystemForm (s : Snapshot) (t : Text) : Text := replaceIdentifiers s.systemFor (separate t)

/-- The text with its repeats collapsed and every identifier that can be resolved in its current
display form. -/
def toDisplayForm (s : Snapshot) (length : Int) (t : Text) : Text :=
  replaceIdentifiers (s.displayFor length) (separate (collapse t))

end Snapshot

/-! ## Updates -/

/-- A text before and after a pass that changed it. -/
structure Update where
  before : Text
  after : Text
  deriving DecidableEq

/-- The update from one text to another one, where they differ. -/
def Update.between? (before after : Text) : Option Update :=
  if before = after then none else some ⟨before, after⟩

/-- The name under which updates are announced. -/
def Update.eventName : Text := "variable-identifiers-updated".toList

end LiveText
