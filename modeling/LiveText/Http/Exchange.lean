import LiveText.Http.Address
import LiveText.Http.Status
import LiveText.Notation.Printer
import LiveText.Notation.Reader

/-!
# Exchanges

A request is answered by a response, or the line to the server fails. `Reply.outcome` says what a
request for data ends with: with the data, or with a fault. Faults of the line and responses that
are no success are *transient*, which means that another attempt may go better; other faults are
not.

A `Server` is the server at the other end, as far as its answers can tell it: the replies it has
still to give, the moment, and the requests it got so far.
-/

set_option autoImplicit false

namespace LiveText.Http

/-! ## Faults -/

/-- How a line to a server fails. -/
inductive LineFault
  | noConnection
  | noAnswer
  | garbled
  deriving DecidableEq, Repr

/-- Why a request brought no data. -/
inductive Fault
  | line (kind : LineFault) (message : Text)
  | status (code : Nat) (address : Address) (location : Option Text)
  | unreadable (e : Notation.ReadError) (body : Text)
  | badValue (message : Text)
  | address (f : AddressFault)
  | unexpected (message : Text)

namespace Fault

/-- Another attempt may go better. -/
def isTransient : Fault → Bool
  | line .. | status .. => true
  | _ => false

/-- The fault is that the content of a response nests too deep to be read. -/
def isTooDeep : Fault → Bool
  | unreadable e _ => e.fault.isTooDeep
  | _ => false

/-- The fault is one of those that a request for data is known to end with. -/
def isForeseen : Fault → Bool
  | unreadable e _ => !e.fault.isTooDeep
  | address _ | unexpected _ => false
  | _ => true

/-- The page that explains a status code. -/
def guide (code : Nat) : Address :=
  { scheme := "https".toList
    host := "developer.mozilla.org".toList
    path := "/en-US/docs/Web/HTTP/Status/".toList ++ Decimal.ofNat code }

/-- The fault in words. -/
def message : Fault → Text
  | line _ t => t
  | status code a location =>
    (Status.className code).toList ++ " '".toList ++ Decimal.ofNat code ++ ' ' ::
      (Status.reason code).toList ++ "' for url '".toList ++ a.written ++ "'\n".toList ++
      (match location with
        | some t => "Redirect location: '".toList ++ t ++ "'\n".toList
        | none => []) ++
      "For more information check: ".toList ++ (guide code).written
  | unreadable e body => (e.message body).toList
  | badValue t => t
  | address f => f.message
  | unexpected t => t

end Fault

/-! ## Replies -/

/-- A content, as a text or as the data that it is to carry. -/
inductive Body
  | text (t : Text)
  | data (v : Value)

/-- The text of a content, without a byte order mark. -/
def Body.written : Body → Text
  | text t => Notation.dropByteOrderMark t
  | data v => Notation.print v

/-- The data in a content, as far as the limits of a reader go. -/
def Body.read (limits : Notation.Limits) (b : Body) : Except Fault Value :=
  (Notation.read b.written limits).mapError (.unreadable · b.written)

/-- A response. -/
structure Response where
  status : Nat := 200
  headers : List (Text × Text) := []
  body : Body

/-- What a request is answered with. -/
inductive Reply
  | response (r : Response)
  | failure (f : Fault)

/-- The values of a header, whose name is matched in any case; several are joined by commas. -/
def Response.header? (name : String) (r : Response) : Option Text :=
  match r.headers.filter fun h => h.1.map Char.toLower == name.toList with
  | [] => none
  | hs => some ([',', ' '].intercalate (hs.map Prod.snd))

/-- The address that a response sends to. -/
def Response.location? (r : Response) : Option Text :=
  if Status.isRedirect r.status then r.header? "location" else none

/-- What is wrong with the address that a response sends to. -/
def locationFault? (location : Text) : Option Fault :=
  match Address.read location with
  | .error f =>
    some (.line .garbled ("Invalid URL in location header: ".toList ++ f.message ++ ['.']))
  | .ok a =>
    if !a.scheme.isEmpty && a.host.isEmpty then
      (Address.pathFault? true true a.path).map .address
    else none

/-- What a request for the data at an address ends with, when a response comes. The response is
taken only if the address is absolute and the response sends to no faulty address. -/
def Response.outcome (limits : Notation.Limits) (a : Address) (r : Response) : Except Fault Value :=
  if !a.isAbsolute then
    .error (.badValue ("unknown url type: ".toList ++ Text.quoted a.target.written))
  else match r.location?.bind locationFault? with
  | some f => .error f
  | none =>
    if Status.isSuccess r.status then r.body.read limits
    else .error (.status r.status a.target r.location?)

/-- What a request for the data at an address ends with. -/
def Reply.outcome (limits : Notation.Limits) (a : Address) : Reply → Except Fault Value
  | response r => r.outcome limits a
  | failure f => .error f

/-! ## Servers -/

/-- A request that a server got, and when. -/
structure Request where
  address : Address
  time : Nat

/-- A server at a moment. -/
structure Server where
  /-- the replies to come; afterwards there is no connection -/
  replies : List Reply := []
  now : Nat := 0
  requests : List Request := []

/-- The reply to a request, by its number from one on. -/
def Server.reply (s : Server) (number : Nat) : Reply :=
  s.replies[number - 1]?.getD (.failure (.line .noConnection "no more responses".toList))

end LiveText.Http
