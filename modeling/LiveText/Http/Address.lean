import LiveText.Http.Host
import LiveText.Text.Quoted
import LiveText.Validation.Lenient

/-!
# Addresses

An address says where a request goes: a scheme, a host with one of its ports, a path, a query and
a fragment, each of which may be missing. `Address.read` takes a written address apart and brings it
into its normal form, in which characters that no address may hold are escaped, dot segments are
taken out of the path, and a number that the scheme stands for anyway is left out.
`Address.written` writes an address.

An address with a scheme and a host is *absolute*. `Address.target` is what a request for an address
that is not absolute is sent to.
-/

set_option autoImplicit false

namespace LiveText.Http

/-! ## Faults -/

/-- What can be wrong with a written address. -/
inductive AddressFault
  | tooLong
  | controlCharacter (c : Char) (position : Nat)
  | portNumber (written : Text)
  | host (f : HostFault) (written : Text)
  | pathBehindHost
  | pathOfSlashes
  | pathOfColon
  deriving DecidableEq, Repr

/-- What is wrong with an address, in words. -/
def AddressFault.message : AddressFault → Text
  | tooLong => "URL too long".toList
  | controlCharacter c position =>
    "Invalid non-printable ASCII character in URL, ".toList ++ Text.quoted [c] ++
      " at position ".toList ++ Decimal.ofNat position ++ ['.']
  | portNumber t => "Invalid port: ".toList ++ Text.quoted t
  | host .numbers t => "Invalid IPv4 address: ".toList ++ Text.quoted t
  | host .groups t => "Invalid IPv6 address: ".toList ++ Text.quoted t
  | pathBehindHost => "For absolute URLs, path must be empty or begin with '/'".toList
  | pathOfSlashes => "Relative URLs cannot have a path starting with '//'".toList
  | pathOfColon => "Relative URLs cannot have a path starting with ':'".toList

/-! ## Addresses -/

/-- Where a request goes. -/
structure Address where
  scheme : Text := []
  user : Text := []
  host : Text := []
  portNumber : Option Int := none
  path : Text := []
  query : Option Text := none
  fragment : Option Text := none
  deriving DecidableEq, Repr

namespace Address

/-- A request can be sent to the address as it stands. -/
def isAbsolute (a : Address) : Bool := !a.scheme.isEmpty && !a.host.isEmpty

/-- The part of a written address that names the host. -/
def authority (a : Address) : Text :=
  (if a.user.isEmpty then [] else a.user ++ ['@']) ++
    (if a.host.contains ':' then '[' :: a.host ++ [']'] else a.host) ++
    match a.portNumber with
    | some n => ':' :: Decimal.ofInt n
    | none => []

/-- The written address. -/
def written (a : Address) : Text :=
  (if a.scheme.isEmpty then [] else a.scheme ++ [':']) ++
    (if a.authority.isEmpty then [] else '/' :: '/' :: a.authority) ++ a.path ++
    (match a.query with
      | some q => '?' :: q
      | none => []) ++
    match a.fragment with
    | some f => '#' :: f
    | none => []

/-- What a request for an address is sent to: the address, or its path and query from the root
where it is not absolute. -/
def target (a : Address) : Address :=
  if a.isAbsolute then a
  else { path := '/' :: a.path.dropWhile (· == '/'), query := a.query }

/-! ## Taking written addresses apart -/

/-- The characters of the name of a scheme. -/
def inScheme (c : Char) : Bool := c.isAlphanum || c == '+' || c == '.' || c == '-'

/-- The scheme at the start of an address, and what follows its colon. -/
def splitScheme (t : Text) : Text × Text :=
  let name := t.takeWhile inScheme
  match t.dropWhile inScheme with
  | ':' :: r => if name.head?.all Char.isAlpha then (name, r) else ([], t)
  | _ => ([], t)

/-- The part that names the host, and the path. -/
def splitAuthority : Text → Text × Text
  | '/' :: '/' :: t => (t.takeWhile (· ≠ '/'), t.dropWhile (· ≠ '/'))
  | t => ([], t)

/-- The host and what is written for its `portNumber`. A host that stands in brackets may hold
colons. -/
def splitPort (t : Text) : Text × Text :=
  let (host, r) :=
    match t, cutAtLast ']' t with
    | '[' :: _, (some inner, r) => (inner ++ [']'], r)
    | _, _ => (t.takeWhile (· ≠ ':'), t.dropWhile (· ≠ ':'))
  match r with
  | ':' :: r => (host, r)
  | r => (host, r)

/-- One more segment behind others, of which the last comes first. A single dot stays where it is;
two dots go up. -/
def walk (above : List Text) (s : Text) : List Text :=
  if s = ['.'] then above
  else if s = ['.', '.'] then if above = [[]] then above else above.drop 1
  else s :: above

/-- The path without its dot segments. -/
def withoutDots (path : Text) : Text :=
  ['/'].intercalate ((Text.pieces '/' path).foldl walk []).reverse

/-! ## Ports -/

/-- The `portNumber` that a scheme stands for. -/
def standardPort? (scheme : Text) : Option Int :=
  match String.ofList scheme with
  | "http" => some 80
  | "https" => some 443
  | "ftp" => some 21
  | "ws" => some 80
  | "wss" => some 443
  | _ => none

/-- The `portNumber` of an address with a scheme. -/
def readPort (scheme written : Text) : Except AddressFault (Option Int) :=
  if written.isEmpty then .ok none
  else match written.contains '.', wholeNumber? written with
    | false, some n => .ok (if standardPort? scheme = some n then none else some n)
    | _, _ => .error (.portNumber written)

/-! ## Reading -/

/-- The longest address that is read. -/
def longest : Nat := 65536

/-- A control character of ASCII. -/
def isControl (c : Char) : Bool := c.toNat < 32 || c.toNat = 127

/-- What is wrong with a path. -/
def pathFault? (hasScheme hasAuthority : Bool) (path : Text) : Option AddressFault :=
  if hasAuthority && !path.isEmpty && path.head? != some '/' then some .pathBehindHost
  else if hasScheme || hasAuthority then none
  else if ['/', '/'].isPrefixOf path then some .pathOfSlashes
  else if [':'].isPrefixOf path then some .pathOfColon
  else none

/-- Reads a written address. -/
def read (t : Text) : Except AddressFault Address :=
  if longest < t.length then .error .tooLong
  else match t.find? isControl with
  | some c => .error (.controlCharacter c (t.takeWhile (· ≠ c)).length)
  | none => do
    let (t, fragment) := cutAt '#' t
    let (t, query) := cutAt '?' t
    let (scheme, t) := splitScheme t
    let (authority, path) := splitAuthority t
    let (user, t) := cutAtLast '@' authority
    let (host, number) := splitPort t
    let a : Address :=
      { scheme := scheme.map Char.toLower
        user := escape inUser (user.getD [])
        host := ← (Host.read host).mapError (.host · host)
        portNumber := ← readPort scheme number
        query := query.map (escape inQuery)
        fragment := fragment.map (escape inFragment) }
    let placed := !a.scheme.isEmpty || !a.authority.isEmpty
    match pathFault? (!a.scheme.isEmpty) (!a.authority.isEmpty) path with
    | some f => .error f
    | none => return { a with path := escape inPath (if placed then withoutDots path else path) }

end Address
end LiveText.Http
