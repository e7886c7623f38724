import LiveText.Markup.Node
import LiveText.Registry.Lookup

/-!
# Variable tags

In a document an identifier is shown as a *variable tag*: an element that carries the identifier in
its attributes and a label as its text. `Element.isVariable` recognizes the tags of all editors;
`Renderer.tag` writes the tags of this one.
-/

set_option autoImplicit false

namespace LiveText

open Markup

/-! ## Recognizing tags -/

/-- The class of variable tags. -/
def variableClass : Text := "variable-tag".toList

/-- Whether attributes make an element a variable tag. -/
def marksVariable (as : List Attribute) : Bool :=
  as.any (fun a => a.name == "data-variable".toList || a.name == "identifier".toList) ||
    Attribute.find? "data-type".toList as == some "variable".toList ||
    (Text.words ((Attribute.find? "class".toList as).getD [])).contains variableClass

namespace Markup.Element

/-- Whether an element is a variable tag. -/
def isVariable (e : Element) : Bool := marksVariable e.attributes

/-- The text of an element. -/
def text (e : Element) : Text := elementText e.name e.children

/-- What the attributes of a variable tag say that it stands for. -/
def statedIdentifier (e : Element) : Text :=
  match Attribute.find? "data-identifier".toList e.attributes with
  | some (c :: cs) => c :: cs
  | _ => (Attribute.find? "identifier".toList e.attributes).getD []

/-- The identifier that a variable tag stands for, with its at sign: what its attributes say, or
else its text. -/
def identifierText (e : Element) : Text :=
  let stated := Text.trim e.statedIdentifier
  match if stated.isEmpty then Text.trim e.text else stated with
  | [] => []
  | '@' :: cs => '@' :: cs
  | cs => '@' :: cs

end Markup.Element

/-! ## Kinds of elements -/

/-- The elements that stand on lines of their own. -/
def blockNames : List Text :=
  ["p", "div", "li", "ul", "ol", "blockquote", "pre", "section", "article", "header", "footer",
    "table", "tr", "h1", "h2", "h3", "h4", "h5", "h6"].map String.toList

/-- Whether an element stands on lines of its own. -/
def isBlock (name : Text) : Bool := blockNames.contains name

/-- Whether what is in an element is no text of the document. -/
def isHidden (name : Text) : Bool :=
  (["script", "style", "head", "title"].map String.toList).contains name

/-! ## Writing tags -/

/-- What writing tags depends on. -/
structure Renderer where
  /-- the records to look identifiers up in -/
  records : Option Snapshot := none
  /-- the rules to guess the kind of a record by that is not known -/
  kinds : List KindRule := KindRule.standard
  /-- how much of an id a tag shows -/
  shortIdLength : Int := 4

/-- What a variable tag tells about the record that it stands for. -/
structure TagInfo where
  kind : RecordKind
  sourceName : Text
  field : Text
  id : Text
  /-- what a reader sees -/
  label : Text

namespace Renderer

/-- The record that an identifier refers to. -/
def find (r : Renderer) (i : Identifier) : Option Record := r.records.bind (·.resolve i)

/-- What the tag of an identifier tells. A display identifier is shown as it is written; a system
identifier is shown in the display form of its record. -/
def info (r : Renderer) (i : Identifier) : TagInfo :=
  match r.find i with
  | some found =>
    let field := match i.field? with
      | some (c :: cs) => c :: cs
      | _ => found.field
    { kind := found.kind
      sourceName := i.source?.getD found.sourceName
      field
      id := found.id
      label :=
        if i.isDisplay then i.text
        else
          let shortId := found.shortId r.shortIdLength
          (Identifier.display found.sourceName field (some shortId)).text }
  | none =>
    { kind := if i.isDisplay then guessKind r.kinds .custom (i.source?.getD []) else .unknown
      sourceName := i.source?.getD []
      field := i.field?.getD []
      id := i.id?.getD []
      label := i.text }

/-- The attributes of the tag of an identifier. -/
def attributes (r : Renderer) (i : Identifier) : List Attribute :=
  let info := r.info i
  let kind := info.kind.word.toList
  let shortId := match i.shortId? with
    | some (c :: cs) => c :: cs
    | _ => Text.upTo r.shortIdLength info.id
  [⟨"identifier".toList, i.text⟩, ⟨"sourcename".toList, info.sourceName⟩,
   ⟨"type".toList, kind⟩, ⟨"data-variable".toList, []⟩,
   ⟨"data-identifier".toList, i.text⟩, ⟨"data-type".toList, kind⟩,
   ⟨"data-source-name".toList, info.sourceName⟩, ⟨"data-field".toList, info.field⟩,
   ⟨"data-id".toList, info.id⟩, ⟨"data-short-id".toList, shortId⟩,
   ⟨"class".toList, variableClass⟩, ⟨"contenteditable".toList, "false".toList⟩]

/-- The variable tag of an identifier. -/
def tag (r : Renderer) (i : Identifier) : Node :=
  .element spanName (r.attributes i) [.prose (r.info i).label]

end Renderer
end LiveText
