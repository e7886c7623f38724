import LiveText.Notation.Lexeme

/-!
# Reading the data notation

`read` gives the value that a text in the data notation stands for, or the first fault in it. The
reader walks once over the lexemes and keeps the lists and objects that are still open on a stack.
What may come next is its `Expectation`, and `step` is what one lexeme leads to. A reader goes no
further than its `Limits`: a list or an object inside too many others and a number with too many
digits are faults, although the notation has them.

`ReadError.message` words a fault, with the line and the column where it shows.
-/

set_option autoImplicit false

namespace LiveText.Notation

/-- How far a reader goes. -/
structure Limits where
  /-- how many lists and objects may be open at once: what the program that reads has left of its
  levels, and so not the same everywhere -/
  nesting : Nat := 960
  /-- how many digits a whole number may have -/
  digits : Nat := 4300

/-- A list or an object that is still open. -/
inductive Frame
  /-- the items so far, last one first -/
  | list (items : List Value)
  /-- the members so far, and the name of the next one -/
  | object (members : List (Text × Value)) (name : Text)

/-- What may come next. -/
inductive Expectation
  | value
  /-- a value, or the end of the list that was just opened -/
  | valueOrEnd
  /-- the name of a member of an object with the members so far -/
  | name (members : List (Text × Value))
  /-- a name, or the end of the object that was just opened -/
  | nameOrEnd
  | colon (members : List (Text × Value)) (name : Text)
  /-- a comma, or the end of the innermost list or object, behind a value -/
  | more (v : Value)

/-- The value of an open list or object with one more value in it, closed. -/
def Frame.close (v : Value) : Frame → Value
  | list items => .list (v :: items).reverse
  | object members name => .object (Value.putMember members name v)

/-- What a lexeme leads to. -/
inductive Step
  /-- to the next lexeme -/
  | on (expected : Expectation) (open_ : List Frame)
  /-- to the end -/
  | done (v : Value)

/-- The step where a value is expected. -/
def stepValue (limits : Limits) (open_ : List Frame) (pos : Nat) : Lexeme → Except ReadError Step
  | .plain v => .ok (.on (.more v) open_)
  | .whole n digits =>
    if digits ≤ limits.digits then .ok (.on (.more (.int n)) open_)
    else .error ⟨.tooManyDigits limits.digits digits, pos⟩
  | .text t => .ok (.on (.more (.text t)) open_)
  | .openList =>
    if open_.length < limits.nesting then .ok (.on .valueOrEnd (.list [] :: open_))
    else .error ⟨.listTooDeep, pos⟩
  | .openObject =>
    if open_.length < limits.nesting then .ok (.on .nameOrEnd open_)
    else .error ⟨.objectTooDeep, pos⟩
  | .broken e => .error e
  | _ => .error ⟨.valueExpected, pos⟩

/-- The step where the name of a member is expected. -/
def stepName (members : List (Text × Value)) (open_ : List Frame) (pos : Nat) :
    Lexeme → Except ReadError Step
  | .text t => .ok (.on (.colon members t) open_)
  | .broken e => .error e
  | _ => .error ⟨.nameExpected, pos⟩

/-- The step behind a value. -/
def stepMore (v : Value) (pos : Nat) : List Frame → Lexeme → Except ReadError Step
  | [], .stop => .ok (.done v)
  | [], _ => .error ⟨.extraData, pos⟩
  | .list items :: open_, .comma => .ok (.on .value (.list (v :: items) :: open_))
  | .list items :: open_, .closeList => .ok (.on (.more ((Frame.list items).close v)) open_)
  | .object members name :: open_, .comma =>
    .ok (.on (.name (Value.putMember members name v)) open_)
  | .object members name :: open_, .closeObject =>
    .ok (.on (.more ((Frame.object members name).close v)) open_)
  | _ :: _, _ => .error ⟨.commaExpected, pos⟩

/-- What a lexeme leads to, with the lists and objects `open_` still open. -/
def step (limits : Limits) (expected : Expectation) (open_ : List Frame) (pos : Nat) (l : Lexeme) :
    Except ReadError Step :=
  match expected with
  | .value => stepValue limits open_ pos l
  | .valueOrEnd =>
    match l, open_ with
    | .closeList, .list _ :: open_ => .ok (.on (.more (.list [])) open_)
    | l, open_ => stepValue limits open_ pos l
  | .name members => stepName members open_ pos l
  | .nameOrEnd =>
    match l with
    | .closeObject => .ok (.on (.more (.object [])) open_)
    | l => stepName [] open_ pos l
  | .colon members name =>
    match l with
    | .colon => .ok (.on .value (.object members name :: open_))
    | _ => .error ⟨.colonExpected, pos⟩
  | .more v => stepMore v pos open_ l

/-- Walks over lexemes, step by step. -/
def readLexemes (limits : Limits) (expected : Expectation) (open_ : List Frame) :
    List (Nat × Lexeme) → Except ReadError Value
  | [] => .error ⟨.valueExpected, 0⟩
  | (pos, l) :: ls =>
    match step limits expected open_ pos l with
    | .ok (.on expected open_) => readLexemes limits expected open_ ls
    | .ok (.done v) => .ok v
    | .error e => .error e

/-- The value that a text in the data notation stands for. -/
def read (t : Text) (limits : Limits := {}) : Except ReadError Value :=
  readLexemes limits .value [] (lexemes t)

/-- The text without the byte order mark that may stand at its start. -/
def dropByteOrderMark : Text → Text
  | '\uFEFF' :: t => t
  | t => t

/-! ## The wording of faults -/

namespace Fault

/-- The fault is that a reader has come to its limit of nesting. -/
def isTooDeep : Fault → Bool
  | listTooDeep | objectTooDeep => true
  | _ => false

/-- The fault is that a reader has come to one of its limits, and none of the notation. -/
def isLimit : Fault → Bool
  | tooManyDigits .. => true
  | f => f.isTooDeep

/-- What is wrong, in words. -/
def message : Fault → String
  | valueExpected => "Expecting value"
  | nameExpected => "Expecting property name enclosed in double quotes"
  | colonExpected => "Expecting ':' delimiter"
  | commaExpected => "Expecting ',' delimiter"
  | extraData => "Extra data"
  | unterminatedText => "Unterminated string starting at"
  | controlCharacter => "Invalid control character at"
  | badEscape => "Invalid \\escape"
  | badUnicodeEscape => "Invalid \\uXXXX escape"
  | tooManyDigits limit digits =>
    "Exceeds the limit (" ++ toString limit ++ " digits) for integer string conversion: value has " ++
      toString digits ++ " digits; use sys.set_int_max_str_digits() to increase the limit"
  | listTooDeep =>
    "maximum recursion depth exceeded while decoding a JSON array from a unicode string"
  | objectTooDeep =>
    "maximum recursion depth exceeded while decoding a JSON object from a unicode string"

end Fault

/-- What is wrong with the text `t`; where it shows is said only of what is wrong by the notation. -/
def ReadError.message (e : ReadError) (t : Text) : String :=
  let before := t.take e.position
  let line := before.count '\n' + 1
  let column := (before.reverse.takeWhile (· != '\n')).length + 1
  let place := ": line " ++ toString line ++ " column " ++ toString column ++ " (char " ++
    toString e.position ++ ")"
  if e.fault.isLimit then e.fault.message else e.fault.message ++ place

end LiveText.Notation
