import LiveText.Registry.Snapshot
import LiveText.Catalog.Entry

/-!
# The registry

The registry keeps the records that lookups are answered from: those fetched from the catalog, and
those registered locally. A fetch takes time, and other things happen meanwhile; so a load is split
into its start (`Registry.load`) and the end of the fetch it waits for (`Registry.complete`).

Clearing the registry starts a new *generation*. A fetch belongs to the generation in which it was
started; when a fetch of an older generation ends, its records are handed to those who wait for
them, but they do not become the contents of the registry.

When a fetch fails, the registry falls back on the last snapshot that held fetched records, which a
clear keeps for this purpose, and remembers the error.

Every operation is a function from the registry to the registry, so that any interleaving of loads,
completions, clears and registrations is a sequence of steps.
-/

set_option autoImplicit false

namespace LiveText

/-! ## Errors -/

/-- A fetch that failed: where, and what was wrong, if that is known. -/
structure FetchError where
  endpoint : Text
  cause : Option Text := none
  deriving DecidableEq

/-- The error in words. -/
def FetchError.message (e : FetchError) : Text :=
  "Failed to fetch variable catalog from ".toList ++ e.endpoint ++
    (match e.cause with
      | some c => ':' :: ' ' :: c
      | none => [])

/-- What a fetch ends with: the entries of the catalog, or an error. -/
abbrev FetchOutcome := Except FetchError (List Value)

/-- The records that a fetch brings. Something that is no entry makes the fetch fail. -/
def FetchOutcome.records : FetchOutcome → Except FetchError (List Record)
  | .error e => .error e
  | .ok entries =>
    match Catalog.records entries with
    | .ok rs => .ok rs
    | .error e => .error { endpoint := "catalog".toList, cause := some e.message }

/-! ## State -/

/-- The records that are known, and what is needed to keep them current. -/
structure Registry where
  /-- how much of an id a display identifier shows -/
  shortIdLength : Int := 4
  /-- what lookups are answered from -/
  snapshot : Snapshot := .empty
  /-- the fetched records of this generation -/
  fetched : List Record := []
  /-- the records that were registered locally -/
  locals : List Record := []
  /-- the last snapshot with fetched records that was cleared, until the next successful fetch -/
  stale : Option Snapshot := none
  loaded : Bool := false
  generation : Nat := 0
  /-- whether a fetch of this generation is running -/
  fetching : Bool := false
  lastError : Option FetchError := none

namespace Registry

/-- The records that are known, in catalog order. -/
def records (g : Registry) : List Record := g.snapshot.records

/-! ## Steps -/

/-- What a load does first. -/
inductive LoadStart
  /-- the records are known already -/
  | known (rs : List Record)
  /-- it waits for the fetch of this generation that is running -/
  | joins
  /-- it starts a fetch in a generation and waits for it -/
  | fetches (generation : Nat)

/-- Starts a load. -/
def load (g : Registry) : LoadStart × Registry :=
  if g.loaded then (.known g.records, g)
  else if g.fetching then (.joins, g)
  else (.fetches g.generation, { g with fetching := true })

/-- A fetch ended well; gives the records for those who wait for it. -/
def succeed (generation : Nat) (fetched : List Record) (g : Registry) : List Record × Registry :=
  let snapshot := Snapshot.ofRecords (Record.merge fetched g.locals)
  (snapshot.records,
    if generation = g.generation then
      { g with
        snapshot, fetched, stale := none, loaded := true, fetching := false, lastError := none }
    else g)

/-- A fetch failed; gives the records for those who wait for it. -/
def fail (generation : Nat) (e : FetchError) (g : Registry) : List Record × Registry :=
  let fallback := g.stale.getD g.snapshot
  (fallback.records,
    if generation = g.generation then
      { g with snapshot := fallback, fetching := false, lastError := some e }
    else { g with lastError := some e })

/-- A fetch of a generation ended. -/
def complete (generation : Nat) (outcome : Except FetchError (List Record)) (g : Registry) :
    List Record × Registry :=
  match outcome with
  | .ok rs => succeed generation rs g
  | .error e => fail generation e g

/-- Drops the fetched records, so that the next load fetches again. Local records stay. -/
def clear (g : Registry) : Registry :=
  { g with
    stale := if g.fetched.isEmpty then g.stale else some g.snapshot
    generation := g.generation + 1
    fetching := false
    loaded := false
    fetched := []
    snapshot := Snapshot.ofRecords g.locals }

/-- Adds local records; fetched records with the same keys go before them. -/
def register (rs : List Record) (g : Registry) : Registry :=
  let locals := Record.merge g.locals rs
  { g with locals, snapshot := Snapshot.ofRecords (Record.merge g.fetched locals) }

/-- The number of local records that registering adds. -/
def newLocals (rs : List Record) (g : Registry) : Nat :=
  (Record.merge g.locals rs).length - g.locals.length

/-- A load whose fetch ends at once. -/
def loadNow (outcome : FetchOutcome) (g : Registry) : Registry :=
  match g.load with
  | (.fetches generation, g) => (g.complete generation (FetchOutcome.records outcome)).2
  | (_, g) => g

end Registry
end LiveText
