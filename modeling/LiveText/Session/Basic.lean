import LiveText.Document.Content
import LiveText.Registry.Timeline
import LiveText.Sync.Debouncer
import LiveText.Forms
import LiveText.Resolution

/-!
# Editing sessions

A session holds one document while it is edited, bound to a registry. Its content is always kept in
its three forms together: every write goes through markup or raw text, and the other forms are
computed from that.

Typing and pasting put identifiers into the document as plain text. Some time later they are
*recognized*: brought up to date and turned into variable tags. Each of the two surfaces has its own
debouncer that schedules this.

A recognition first waits for the registry and only then looks at the content
(`Session.recognizeLoaded`), so text that is written meanwhile is not lost.
-/

set_option autoImplicit false

namespace LiveText

/-- What makes identifiers come in. -/
inductive Surface
  | typing
  | pasting
  deriving DecidableEq, Repr

/-- A document that is being edited. -/
structure Session where
  registry : Registry := {}
  /-- what the catalog answers to the registry -/
  supply : Supply := {}
  /-- how many fetches were started -/
  fetches : Nat := 0
  content : Content := {}
  typing : Debouncer
  pasting : Debouncer
  /-- the updates that were announced, the first one first -/
  announced : List Update := []
  /-- resolves a text, or fails -/
  resolver : Snapshot → Text → Option Text := fun s t => some (s.resolveIn t)

namespace Session

/-! ## Parts -/

/-- The snapshot that lookups are answered from. -/
def snapshot (s : Session) : Snapshot := s.registry.snapshot

/-- The renderer of the session. -/
def renderer (s : Session) : Renderer := .ofRegistry s.registry

/-- The debouncer of a surface. -/
def debouncer (s : Session) : Surface → Debouncer
  | .typing => s.typing
  | .pasting => s.pasting

/-- Changes the debouncer of a surface. -/
def modifyDebouncer (f : Debouncer → Debouncer) (s : Session) : Surface → Session
  | .typing => { s with typing := f s.typing }
  | .pasting => { s with pasting := f s.pasting }

/-- Whether a recognition is scheduled or going on. -/
def isPending (s : Session) : Bool :=
  s.typing.pending || s.typing.running || s.pasting.pending || s.pasting.running

/-! ## The registry -/

/-- Loads the registry; a fetch takes no time. -/
def load (s : Session) : Session :=
  match s.registry.load with
  | (.fetches generation, g) =>
    { s with
      registry := (g.complete generation (FetchOutcome.records s.supply.outcome)).2
      fetches := s.fetches + 1 }
  | (_, g) => { s with registry := g }

/-! ## Reading -/

/-- Announces an update, where the text changed. -/
def announce (before after : Text) (s : Session) : Session :=
  { s with announced := s.announced ++ (Update.between? before after).toList }

/-- The text in display form; a change is announced. -/
def toDisplayForm (t : Text) (s : Session) : Text × Session :=
  let displayed := s.snapshot.toDisplayForm s.registry.shortIdLength t
  (displayed, s.announce t displayed)

/-- The content in system form, to be stored; a change is announced. -/
def storageText (s : Session) : Text × Session :=
  let stored := s.snapshot.toSystemForm s.content.raw
  (stored, s.announce s.content.raw stored)

/-- The content with current values, from a catalog that is fetched anew; where it cannot be
resolved, the raw text. -/
def resolvedText (s : Session) : Text × Session :=
  let s := { s with registry := s.registry.clear }.load
  ((s.resolver s.snapshot s.content.raw).getD s.content.raw, s)

/-- The records that the content refers to, each one once. -/
def usedRecords (s : Session) : List Record := s.snapshot.usedIn s.content.raw

/-! ## Writing -/

/-- Replaces the content by raw text. -/
def setRaw (raw : Text) (s : Session) : Session := { s with content := .ofRaw s.renderer raw }

/-- Replaces the content by markup. -/
def setHtml (html : Text) (s : Session) : Session := { s with content := .ofHtml html }

/-- The raw text with an identifier behind it; a space keeps it from touching what is there. -/
def appended (raw identifier : Text) : Text :=
  match raw.getLast? with
  | some c => if Text.isBlank c then raw ++ identifier else raw ++ ' ' :: identifier
  | none => identifier

/-- Appends the identifier of a record. -/
def insert (r : Record) (s : Session) : Session := s.setRaw (appended s.content.raw r.systemText)

/-- A text from outside, which may hold markup, as raw text. -/
def cleaned (t : Text) : Text := separate (if Text.hasMarkup t then rawText t else t)

/-- The content becomes a raw text in display form, once the registry is loaded. -/
def replaceLoaded (raw : Text) (s : Session) : Session :=
  let (displayed, s) := s.toDisplayForm raw
  s.setRaw displayed

/-- Replaces the content by a text from outside. -/
def replaceBy (t : Text) (s : Session) : Session := s.load.replaceLoaded (cleaned t)

/-- Replaces the content by one from an editor. Only its markup counts, or where it has none its raw
text. -/
def replaceByContent (c : Content) (s : Session) : Session :=
  if c.html.isEmpty then s.setRaw c.raw else s.setHtml c.html

/-- Takes in markup from a surface and schedules a recognition. -/
def takeIn (surface : Surface) (now : Nat) (html : Text) (s : Session) : Session :=
  (s.setHtml html).modifyDebouncer (·.trigger now) surface

/-- Drops the recognitions that are scheduled. -/
def close (s : Session) : Session :=
  { s with typing := s.typing.cancel, pasting := s.pasting.cancel }

/-- Empties the document. -/
def clear (s : Session) : Session := { s.close with content := {} }

/-! ## Recognizing -/

/-- The end of a recognition, once the registry is loaded: the raw text of this moment is brought to
display form and rendered. -/
def recognizeLoaded (s : Session) : Session := s.replaceLoaded s.content.raw

/-- Recognizes the identifiers in the content. -/
def recognize (s : Session) : Session := s.load.recognizeLoaded

/-- The recognition that a surface scheduled is due. -/
def fire (surface : Surface) (s : Session) : Session :=
  let s := s.modifyDebouncer Debouncer.fire surface
  s.recognize.modifyDebouncer Debouncer.finish surface

/-- Recognizes at once what a surface scheduled. -/
def flushSurface (surface : Surface) (s : Session) : Session :=
  if (s.debouncer surface).pending then s.fire surface else s

/-- Recognizes at once whatever is scheduled. -/
def flush (s : Session) : Session := (s.flushSurface .pasting).flushSurface .typing

end Session
end LiveText
