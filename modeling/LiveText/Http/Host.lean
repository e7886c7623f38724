import LiveText.Http.Escape
import LiveText.Http.Punycode
import LiveText.Text.Lower

/-!
# Hosts

A host is named by four numbers, by groups of hexadecimal digits in brackets, or by labels. The
first two are checked; the labels are brought into lower case and into ASCII.
-/

set_option autoImplicit false

namespace LiveText.Http

/-- The kinds of names for hosts that can be wrong. -/
inductive HostFault
  | numbers
  | groups
  deriving DecidableEq, Repr

namespace Host

/-! ## Four numbers -/

/-- Four numbers with dots between them name a host. -/
def looksNumeric (t : Text) : Bool :=
  let ps := Text.pieces '.' t
  ps.length == 4 && ps.all fun p => !p.isEmpty && p.all Char.isDigit

/-- The number of a byte, without a zero in front. -/
def isByte (t : Text) : Bool :=
  !t.isEmpty && t.all Char.isDigit && (t.length == 1 || t.head? != some '0') &&
    Notation.decimalNumber t < 256

/-- Four numbers of bytes. -/
def isNumeric (t : Text) : Bool := looksNumeric t && (Text.pieces '.' t).all isByte

/-! ## Groups -/

/-- A group of hexadecimal digits. -/
def isGroup (t : Text) : Bool :=
  !t.isEmpty && t.length ≤ 4 && t.all fun c => (Notation.hexDigit? c).isSome

/-- The groups of a text. -/
def groups (t : Text) : List Text := if t.isEmpty then [] else Text.pieces ':' t

/-- The groups of a text whose last two may be written as four numbers. -/
def groupsBeforeNumbers (t : Text) : List Text :=
  let gs := groups t
  match gs.getLast? with
  | some g => if isNumeric g then gs.dropLast ++ [['0'], ['0']] else gs
  | none => []

/-- The two sides of the first double colon. -/
def sides : Text → Option (Text × Text)
  | ':' :: ':' :: t => some ([], t)
  | c :: t => (sides t).map fun (a, b) => (c :: a, b)
  | [] => none

/-- Eight groups; a double colon stands for those that are left out. -/
def isGrouped (t : Text) : Bool :=
  match sides t with
  | some (a, b) =>
    let gs := groups a ++ groupsBeforeNumbers b
    gs.all isGroup && gs.length < 8
  | none =>
    let gs := groupsBeforeNumbers t
    gs.all isGroup && gs.length == 8

/-- Groups with a zone behind a percent sign, if there is one. -/
def isZoned (t : Text) : Bool :=
  match cutAt '%' t with
  | (t, none) => isGrouped t
  | (t, some zone) => isGrouped t && !zone.isEmpty && !zone.contains '%'

/-! ## Labels -/

/-- The dots of the scripts that have one of their own, as a plain dot. -/
def plainDot (c : Char) : Char :=
  if c = '\u3002' ∨ c = '\uFF0E' ∨ c = '\uFF61' then '.' else c

/-- A label in ASCII. -/
def label (t : Text) : Text :=
  if t.all fun c => c.toNat < 128 then t else "xn--".toList ++ Punycode.encode t

/-- A name made of labels. -/
def name (t : Text) : Text :=
  let t := Text.lower t
  if t.all fun c => c.toNat < 128 then escape inHost t
  else ['.'].intercalate ((Text.pieces '.' (t.map plainDot)).map label)

/-! ## Reading -/

/-- The name of a host, without the brackets around it, or the kind of name that is wrong. -/
def read (t : Text) : Except HostFault Text :=
  if looksNumeric t then if isNumeric t then .ok t else .error .numbers
  else if t.head? = some '[' ∧ t.getLast? = some ']' then
    let inner := (t.drop 1).dropLast
    if isZoned inner then .ok inner else .error .groups
  else .ok (name t)

end Host
end LiveText.Http
