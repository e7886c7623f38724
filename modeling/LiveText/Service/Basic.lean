import LiveText.Catalog.Remote
import LiveText.Document.Content
import LiveText.Resolution
import LiveText.Service.Job
import LiveText.Forms

/-!
# The service

The service answers requests with one registry, which it fills from the catalog service when a
request first needs it. `Service.handle` answers a request: it finds the route, reads the content,
sees to it that what the route needs is there, checks the content, and then does the job. The first
of these steps that fails decides on the refusal.
-/

set_option autoImplicit false

namespace LiveText

open Http

namespace Service

/-! ## Requests and answers -/

/-- A request to the service. -/
structure Incoming where
  method : Text
  address : Text
  content : Option Body := none

/-- What a job that was done is answered with. -/
inductive Answer
  | greeting
  | healthy
  | listed (records : List Record) (lastError : Option FetchError)
  | cleared (dropped : Nat)
  | identifiers (separated : Text) (occurrences : List Occurrence)
  | converted (t : Text) (changed : Bool)
  | content (c : Content)
  | resolved (t : Text) (unresolved : List Text)

/-- Why a job was not done. -/
inductive Refusal
  | astray (a : Astray)
  /-- the content is broken at an offset -/
  | unreadable (position : Nat)
  /-- the content goes beyond the limits of the reader -/
  | excessive
  | noRegistry
  | noConverter
  | invalid (issues : List Issue)

/-- The status code of a refusal. -/
def Refusal.status : Refusal → Nat
  | astray .nowhere => 404
  | astray .otherMethod => 405
  | astray .otherSlashes => 307
  | excessive => 400
  | unreadable _ | invalid _ => 422
  | noRegistry | noConverter => 503

/-- What a refusal says beside its code; some say nothing, and some list issues instead. -/
def Refusal.detail? : Refusal → Option String
  | astray .nowhere => some (Status.reason 404)
  | astray .otherMethod => some (Status.reason 405)
  | astray .otherSlashes | unreadable _ | invalid _ => none
  | excessive => some "There was an error parsing the body"
  | noRegistry => some "Variable registry not initialized"
  | noConverter => some "Identifier translator not initialized"

/-- The refusal of a request whose content was not read. -/
def Refusal.ofReadError (e : Notation.ReadError) : Refusal :=
  if e.fault.isLimit then .excessive else .unreadable e.position

end Service

/-! ## State -/

/-- The service at a moment. -/
structure Service where
  catalog : RemoteCatalog
  /-- the registry, once the service is started -/
  registry : Option Registry := none
  /-- texts can be converted from one form to the other -/
  converts : Bool := false
  /-- the catalog service -/
  server : Server := {}
  /-- how far the reader of requests goes -/
  limits : Notation.Limits := {}

namespace Service

/-- The name of the service. -/
def greeting : String := "Variable Reference Engine API"

/-- The version of the service. -/
def version : String := "0.1.0"

/-- The service that settings describe, before it is started. -/
def ofSettings (s : Settings) (server : Server) : Service where
  catalog := .ofSettings s
  server

/-- Starts the service. -/
def start (s : Settings) (v : Service) : Service :=
  { v with registry := some { shortIdLength := s.shortIdLength }, converts := true }

/-- Loads a registry of the service; a fetch makes the service wait. -/
def load (g : Registry) (v : Service) : Registry × Service :=
  match g.load with
  | (.fetches generation, g) =>
    let (outcome, server) := v.catalog.fetch v.server
    let outcome := outcome.mapError FetchFailure.toFetchError
    let g := (g.complete generation (FetchOutcome.records outcome)).2
    (g, { v with registry := some g, server })
  | (_, g) => (g, { v with registry := some g })

/-! ## Jobs -/

/-- Whether a text was changed, and what it became. -/
def conversion (t converted : Text) : Answer := .converted converted (converted != t)

/-- Does a job that needs a registry. -/
def doWith (g : Registry) (v : Service) : Job → Answer × Service
  | .greet => (.greeting, v)
  | .reportHealth => (.healthy, v)
  | .parse t => (.identifiers (separate t) (separatedOccurrences t), v)
  | .extract html => (.content (.ofHtml html), v)
  | .clear => (.cleared g.fetched.length, { v with registry := some g.clear })
  | .list =>
    let (g, v) := v.load g
    (.listed g.records g.lastError, v)
  | .toSystemForm t =>
    let (g, v) := v.load g
    (conversion t (g.snapshot.toSystemForm t), v)
  | .toDisplayForm t =>
    let (g, v) := v.load g
    (conversion t (g.snapshot.toDisplayForm g.shortIdLength t), v)
  | .render raw isMarkup =>
    let (g, v) := v.load g
    let r : Renderer := .ofRegistry g
    (.content (if isMarkup then .ofMarkup r raw else .ofRaw r raw), v)
  | .resolve t refresh =>
    let (g, v) := v.load (if refresh then g.clear else g)
    (.resolved (g.snapshot.resolveIn t) (g.snapshot.unresolvedIn t), v)

/-- Whether what a route needs is there. -/
def supplies (r : Route) (v : Service) : Except Refusal Unit :=
  if r.needsRegistry && v.registry.isNone then .error .noRegistry
  else if r.convertsForms && !v.converts then .error .noConverter
  else .ok ()

/-- The job that a request asks for. -/
def jobOf (q : Incoming) (v : Service) : Except Refusal Job := do
  let r ← match pathOf q.address with
    | some path => (Route.find q.method path).mapError .astray
    | none => .error (.astray .nowhere)
  let content ← (readContent v.limits q.content r).mapError .ofReadError
  v.supplies r
  match Job.check content r with
  | .ok j => return j
  | .error issues => throw (.invalid issues)

/-- Answers a request. -/
def handle (q : Incoming) (v : Service) : Except Refusal Answer × Service :=
  match v.jobOf q with
  | .error f => (.error f, v)
  | .ok j =>
    let (a, v) := v.doWith (v.registry.getD {}) j
    (.ok a, v)

/-- An answer to a request has a content. -/
def Incoming.wantsContent (q : Incoming) : Bool := q.method ≠ "HEAD".toList

end Service
end LiveText
