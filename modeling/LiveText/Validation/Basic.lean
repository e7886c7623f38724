import LiveText.Record.Basic

/-!
# Checking plain data

Records and contents that come from outside are checked before they are used: required fields must
be there, texts must be texts, a kind must be one of the known words. Every fault is reported, in
the order in which the fields are declared; fields that are not declared are passed over.

A check is a `Checked` value: either the thing itself or the list of its issues. `Checked` is
applicative, and so the checks of several fields together keep the issues of all of them.
-/

set_option autoImplicit false

namespace LiveText

/-! ## Issues -/

/-- What can be wrong with a piece of data. -/
inductive IssueKind
  | missing
  | notText
  | notKind
  | notObject
  | notMembers
  | notBool
  | unreadableBool
  | notInt
  | unreadableInt
  | oversizedInt
  | fractionalInt
  | notFinite
  | notFloat
  | unreadableFloat
  | notList
  | undeclared
  deriving DecidableEq, Repr

/-- The word for an issue. -/
def IssueKind.word : IssueKind → String
  | missing => "missing"
  | notText => "string_type"
  | notKind => "enum"
  | notObject => "model_type"
  | notMembers => "model_attributes_type"
  | notBool => "bool_type"
  | unreadableBool => "bool_parsing"
  | notInt => "int_type"
  | unreadableInt => "int_parsing"
  | oversizedInt => "int_parsing_size"
  | fractionalInt => "int_from_float"
  | notFinite => "finite_number"
  | notFloat => "float_type"
  | unreadableFloat => "float_parsing"
  | notList => "list_type"
  | undeclared => "extra_forbidden"

/-- An issue and the place where it is. -/
structure Issue where
  location : List Text
  kind : IssueKind
  deriving DecidableEq, Repr

/-- The issue in words. -/
def Issue.message (i : Issue) : Text :=
  List.intercalate ['.'] i.location ++ ':' :: i.kind.word.toList

/-- All issues in words. -/
def Issue.messages (is : List Issue) : Text :=
  List.intercalate [';', ' '] (is.map Issue.message)

/-! ## Checked data -/

/-- A thing that was checked, or all that is wrong with it. -/
inductive Checked (α : Type)
  | ok (x : α)
  | error (issues : List Issue)
  deriving DecidableEq, Repr

namespace Checked

/-- A checked thing under a function. -/
def map {α β : Type} (f : α → β) : Checked α → Checked β
  | ok x => ok (f x)
  | error is => error is

/-- Two checks together; where both fail, the issues of the first come first. -/
def apply {α β : Type} : Checked (α → β) → Checked α → Checked β
  | ok f, ok x => ok (f x)
  | ok _, error js => error js
  | error is, ok _ => error is
  | error is, error js => error (is ++ js)

instance : Applicative Checked where
  pure := ok
  map := map
  seq f a := apply f (a ())

/-- The check of something inside of a place, where its issues are located then. -/
def inside {α : Type} (place : Text) : Checked α → Checked α
  | ok x => ok x
  | error is => error (is.map fun i => { i with location := place :: i.location })

/-- The checks of all members of a list, up to the first that fails. -/
def all {α β : Type} (check : α → Checked β) : List α → Checked (List β)
  | [] => ok []
  | x :: xs =>
    match check x with
    | ok y => (all check xs).map (y :: ·)
    | error is => error is

end Checked

/-- The check of a text. -/
def checkText (location : List Text) : Value → Checked Text
  | .text t => .ok t
  | _ => .error [⟨location, .notText⟩]

/-- The check of a text that may be missing. -/
def checkTextOrNull (location : List Text) : Value → Checked (Option Text)
  | .null => .ok none
  | v => some <$> checkText location v

/-- The check of the word for a kind. -/
def checkKind (location : List Text) : Value → Checked RecordKind
  | .text t =>
    match RecordKind.ofWord? t with
    | some k => .ok k
    | none => .error [⟨location, .notKind⟩]
  | _ => .error [⟨location, .notKind⟩]

/-- The check of a field that must be there. -/
def required {α : Type} (check : List Text → Value → Checked α) (name : String) (v : Value) :
    Checked α :=
  match v.get? name with
  | some w => check [name.toList] w
  | none => .error [⟨[name.toList], .missing⟩]

/-- The check of a field that has a default. -/
def optional {α : Type} (check : List Text → Value → Checked α) (default : α) (name : String)
    (v : Value) : Checked α :=
  match v.get? name with
  | some w => check [name.toList] w
  | none => .ok default

end LiveText
