import LiveText.Http.Address

/-!
# Routes

The service answers at a few paths, each with one method. `Route.find` tells which route a request
takes, or why it takes none: another method may belong to its path, or its path may be that of a
route but for slashes at the end.
-/

set_option autoImplicit false

namespace LiveText.Service

open Http

/-- What the service can be asked for. -/
inductive Route
  | greeting
  | health
  | listing
  | clearing
  | parsing
  | systemForm
  | displayForm
  | rendering
  | extraction
  | resolution
  deriving DecidableEq, Repr

namespace Route

/-- All routes. -/
def all : List Route :=
  [listing, clearing, parsing, systemForm, displayForm, rendering, extraction, resolution,
   greeting, health]

/-- The path of a route. -/
def path : Route → String
  | greeting => "/"
  | health => "/health"
  | listing => "/api/v1/variables"
  | clearing => "/api/v1/variables/cache/clear"
  | parsing => "/api/v1/identifiers/parse"
  | systemForm => "/api/v1/identifiers/system-form"
  | displayForm => "/api/v1/identifiers/display-form"
  | rendering => "/api/v1/content/render"
  | extraction => "/api/v1/content/extract"
  | resolution => "/api/v1/content/resolve"

/-- The method of a route. -/
def method : Route → String
  | greeting | health | listing => "GET"
  | _ => "POST"

/-- The route reads the content of a request. -/
def readsContent : Route → Bool
  | greeting | health | listing | clearing => false
  | _ => true

/-- The route needs the registry. -/
def needsRegistry : Route → Bool
  | greeting | health | parsing => false
  | _ => true

/-- The route converts a text from one form to the other. -/
def convertsForms : Route → Bool
  | systemForm | displayForm => true
  | _ => false

end Route

/-- Why a request takes no route. -/
inductive Astray
  /-- there is nothing at the path -/
  | nowhere
  | otherMethod
  /-- the path is that of a route but for slashes at the end -/
  | otherSlashes
  deriving DecidableEq, Repr

/-- The path that a request for an address is sent to. -/
def pathOf (address : Text) : Option Text :=
  match Address.read address with
  | .error _ => none
  | .ok a =>
    match Address.withoutDots a.target.path with
    | [] => some ['/']
    | p => some (unescape p)

/-- The route at a path. -/
def Route.atPath? (path : Text) : Option Route := Route.all.find? (·.path.toList == path)

/-- The path with a slash at its end, or without those that are there. -/
def toggleSlash (path : Text) : Text :=
  if path.getLast? = some '/' then Text.trimEndOf (· == '/') path else path ++ ['/']

/-- The route that a request for a path takes. -/
def Route.find (method path : Text) : Except Astray Route :=
  match Route.atPath? path with
  | some r => if r.method.toList = method then .ok r else .error .otherMethod
  | none =>
    if path ≠ ['/'] ∧ (Route.atPath? (toggleSlash path)).isSome then .error .otherSlashes
    else .error .nowhere

end LiveText.Service
