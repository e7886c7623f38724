import LiveText.Catalog.Entry
import LiveText.Http.Exchange
import LiveText.Registry.Basic
import LiveText.Settings

/-!
# The catalog service

The catalog is fetched from a service. An attempt that fails transiently is repeated after a wait,
as long as attempts are left; the waits double from one second on, within bounds.

`lastAttempt` is the repetition by itself: from what each attempt ends with, it tells which one is
the last and what that one ends with. `RemoteCatalog.fetch` applies it to the replies of a server.
-/

set_option autoImplicit false

namespace LiveText

open Http

/-! ## Repeating attempts -/

/-- What an attempt ends with: the data that the service sent, or a fault. -/
abbrev AttemptOutcome := Except Fault Value

/-- An attempt that is repeated if others are allowed. -/
def isRepeatable : AttemptOutcome → Bool
  | .error f => f.isTransient
  | .ok _ => false

/-- The last attempt among those from a number on, of which so many more are allowed: its number,
and what it ends with. -/
def lastAttempt (outcome : Nat → AttemptOutcome) (more number : Nat) : Nat × AttemptOutcome :=
  match more with
  | 0 => (number, outcome number)
  | more + 1 =>
    if isRepeatable (outcome number) then lastAttempt outcome more (number + 1)
    else (number, outcome number)

/-- How attempts are repeated. -/
structure RetryPolicy where
  /-- how many attempts are asked for -/
  attempts : Int := 3
  /-- the bounds of a wait, in milliseconds -/
  waitMin : Int := 500
  waitMax : Int := 5000

namespace RetryPolicy

/-- How many attempts may be made: one at least. -/
def limit (p : RetryPolicy) : Nat := (max 1 p.attempts).toNat

/-- The wait behind an attempt, in milliseconds. -/
def wait (p : RetryPolicy) (number : Nat) : Nat :=
  (max (max 0 p.waitMin) (min (1000 * Nat.pow 2 (number - 1)) p.waitMax)).toNat

/-- When attempts start, from the start of the first one on: the one that follows so many others. -/
def start (p : RetryPolicy) : (others : Nat) → Nat
  | 0 => 0
  | n + 1 => p.start n + p.wait (n + 1)

end RetryPolicy

/-! ## The catalog -/

/-- A catalog that a service holds. -/
structure RemoteCatalog where
  /-- the written address of the catalog -/
  endpoint : Text
  policy : RetryPolicy := {}
  /-- how far the reader of answers goes -/
  limits : Notation.Limits := {}
  /-- whether the line to the service is lent, so that closing the catalog leaves it open -/
  borrowsLine : Bool := false

/-- Why a fetch brought no entries. -/
inductive FetchFailure
  /-- a fault that fetches are known to end with -/
  | known (endpoint : Text) (cause : Fault)
  | unexpected (cause : Fault)

/-- The failure in words. -/
def FetchFailure.message : FetchFailure → Text
  | known endpoint cause => FetchError.message { endpoint, cause := some cause.message }
  | unexpected cause => cause.message

/-- The error that a registry remembers. -/
def FetchFailure.toFetchError : FetchFailure → FetchError
  | known endpoint cause => { endpoint, cause := some cause.message }
  | unexpected cause => { endpoint := "catalog".toList, cause := some cause.message }

namespace RemoteCatalog

/-- The address of a path below a base, with one slash between them. -/
def endpointOf (base path : Text) : Text :=
  Text.trimEndOf (· == '/') base ++ '/' :: path.dropWhile (· == '/')

/-- Seconds in milliseconds. -/
def milliseconds (seconds : Float) : Int := truncated (seconds * 1000).round

/-- The catalog that settings describe. -/
def ofSettings (s : Settings) : RemoteCatalog where
  endpoint := endpointOf s.catalogBase s.catalogPath
  policy :=
    { attempts := s.catalogAttempts
      waitMin := milliseconds s.catalogWaitMin
      waitMax := milliseconds s.catalogWaitMax }

/-- Closing the catalog closes its line. -/
def closesLine (c : RemoteCatalog) : Bool := !c.borrowsLine

/-- What a fetch ends with whose last attempt ended so. -/
def conclude (c : RemoteCatalog) : AttemptOutcome → Except FetchFailure (List Value)
  | .ok answer => .ok (Catalog.entriesOf answer)
  | .error f => .error (if f.isForeseen then .known c.endpoint f else .unexpected f)

/-- The server after so many attempts, whose requests go to an address. -/
def after (c : RemoteCatalog) (attempts : Nat) (target : Address) (s : Server) : Server where
  replies := s.replies.drop attempts
  now := s.now + c.policy.start (attempts - 1)
  requests := s.requests ++
    (List.range attempts).map fun i => ⟨target, s.now + c.policy.start i⟩

/-- Fetches the catalog from a server. A faulty address makes no request. -/
def fetch (c : RemoteCatalog) (s : Server) : Except FetchFailure (List Value) × Server :=
  match Address.read c.endpoint with
  | .error f => (c.conclude (.error (.address f)), s)
  | .ok a =>
    let outcomes (number : Nat) : AttemptOutcome := (s.reply number).outcome c.limits a
    let (last, outcome) := lastAttempt outcomes (c.policy.limit - 1) 1
    (c.conclude outcome, c.after last a.target s)

end RemoteCatalog
end LiveText
