import LiveText.Http.Exchange
import LiveText.Service.Route
import LiveText.Validation.Lenient

/-!
# Jobs

A job is what a request asks the service to do: the route that it takes, with what its content
says. `Job.check` reads the content for a route; every field has a default, and fields that are not
known are passed over.
-/

set_option autoImplicit false

namespace LiveText.Service

open Http

/-- What the service is asked to do. -/
inductive Job
  | greet
  | reportHealth
  | list
  | clear
  | parse (t : Text)
  | toSystemForm (t : Text)
  | toDisplayForm (t : Text)
  | render (raw : Text) (isMarkup : Bool)
  | extract (html : Text)
  | resolve (t : Text) (refresh : Bool)

/-- The name of the content among the places of a request. -/
def contentPlace : Text := "body".toList

/-- The field of a content that holds a text. -/
def textField (name : String) (v : Value) : Checked Text := optional checkText [] name v

/-- The field of a content that holds a switch. -/
def switchField (name : String) (v : Value) : Checked Bool := optional checkBool false name v

/-- The job for a route with the fields of a content. -/
def Job.ofFields (v : Value) : Route → Checked Job
  | .greeting => .ok .greet
  | .health => .ok .reportHealth
  | .listing => .ok .list
  | .clearing => .ok .clear
  | .parsing => .parse <$> textField "text" v
  | .systemForm => .toSystemForm <$> textField "text" v
  | .displayForm => .toDisplayForm <$> textField "text" v
  | .rendering => .render <$> textField "raw_text" v <*> switchField "markup" v
  | .extraction => .extract <$> textField "html" v
  | .resolution => .resolve <$> textField "text" v <*> switchField "refresh" v

/-- The job for a route with a content; a route that reads its content needs an object. -/
def Job.check (content : Value) (r : Route) : Checked Job :=
  if !r.readsContent || content.isObject then (Job.ofFields content r).inside contentPlace
  else match content with
    | .null => .error [⟨[contentPlace], .missing⟩]
    | _ => .error [⟨[contentPlace], .notMembers⟩]

/-- The data in the content of a request for a route. Where there is no content, or none is read,
there are no data. -/
def readContent (limits : Notation.Limits) (content : Option Body) (r : Route) :
    Except Notation.ReadError Value :=
  match r.readsContent, content with
  | false, _ | _, none | _, some (.text []) => .ok .null
  | true, some b => Notation.read b.written limits

end LiveText.Service
