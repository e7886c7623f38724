import LiveText.Markup.Nesting
import LiveText.Markup.Token

/-!
# Assembling nodes from tokens

The nodes of a document body are assembled from left to right. `Assembly` holds the elements that
are open, each with the nodes it has so far; a start tag opens an element and an end tag closes
elements, by the rules of `LiveText.Markup.Nesting`. Text is gathered until a node is put behind it,
so that a tag which is left out does not divide it.

## What is here

* `Assembly.step` takes in one token, `nodes` a sequence of them.
* `Attribute.tidied` normalizes the attributes whose values are lists of words.
-/

set_option autoImplicit false

namespace LiveText.Markup

open Text

/-! ## Attributes -/

/-- For each element the attributes whose values are lists of words. -/
def wordLists : List (List Text × List Text) :=
  [("a link", "rel rev"), ("td th", "headers"), ("form", "accept-charset"), ("object", "archive"),
   ("area", "rel"), ("icon", "sizes"), ("iframe", "sandbox"), ("output", "for")].map
    fun (elements, attributes) => (names elements, names attributes)

/-- Whether the value of an attribute is a list of words. -/
def isWordList (element name : Text) : Bool :=
  (names "class accesskey dropzone").contains name ||
    wordLists.any fun (es, as) => es.contains element && as.contains name

/-- The attribute with one space between the words of its value, if that is a list of words. -/
def Attribute.tidied (element : Text) (a : Attribute) : Attribute :=
  if isWordList element a.name then { a with value := joinWords (words a.value) } else a

/-! ## Open elements -/

/-- An open element. -/
structure OpenElement where
  name : Text
  attributes : List Attribute
  /-- its nodes so far, the last one first -/
  nodes : List Node := []

/-- A document body that is being assembled. -/
structure Assembly where
  /-- the elements whose blank text is kept as it is written -/
  keeps : Text → Bool := keepsBlanks
  /-- the open elements, the innermost one first -/
  openElements : List OpenElement := []
  /-- the nodes of the body itself so far, the last one first -/
  nodes : List Node := []
  /-- text that no node stands behind yet -/
  gathered : Text := []
  /-- how many tags of surrounding elements were left out whose end tags are to be left out -/
  leftOut : Nat := 0
  /-- the body is over, and what follows is lost -/
  ended : Bool := false

namespace Assembly

/-- The names of the open elements, the innermost one first. -/
def openNames (a : Assembly) : List Text := a.openElements.map (·.name)

/-- The region that text is in now. -/
def region (a : Assembly) : Region := (a.openNames.findSome? Region.ofElement?).getD .prose

/-- Puts a node into the innermost open element. -/
def push (n : Node) (a : Assembly) : Assembly :=
  match a.openElements with
  | [] => { a with nodes := n :: a.nodes }
  | e :: es => { a with openElements := { e with nodes := n :: e.nodes } :: es }

/-- A text of blanks between tags counts for one line feed or one space. -/
def shortenBlanks (t : Text) : Text :=
  if t.all isGap then (if '\n' ∈ t then ['\n'] else [' ']) else t

/-- Makes a node of the gathered text. -/
def settle (a : Assembly) : Assembly :=
  if a.gathered.isEmpty then a
  else
    let t := if a.openNames.any a.keeps then a.gathered else shortenBlanks a.gathered
    { a with gathered := [] }.push (.text a.region t)

/-- Closes the innermost open element. -/
def close (a : Assembly) : Assembly :=
  let a := a.settle
  match a.openElements with
  | [] => a
  | e :: es =>
    { a with openElements := es }.push (.element e.name e.attributes e.nodes.reverse)

/-- Closes the `n` innermost open elements. -/
def closeMany (a : Assembly) : Nat → Assembly
  | 0 => a
  | n + 1 => a.close.closeMany n

/-- Closes the elements that a start tag ends. -/
def closeBefore (tag : Text) (a : Assembly) : Assembly :=
  a.closeMany (a.openNames.takeWhile (endsBefore tag)).length

/-- Takes in a start tag. -/
def start (name : Text) (attributes : List Attribute) (closed : Bool) (a : Assembly) : Assembly :=
  let a := a.closeBefore name
  if isSurrounding name then { a with leftOut := a.leftOut + 1 }
  else
    let a := a.settle
    let attributes := attributes.map (Attribute.tidied name)
    if closed || isVoid name then a.push (.element name attributes [])
    else { a with openElements := ⟨name, attributes, []⟩ :: a.openElements }

/-- Closes everything. -/
def closeAll (a : Assembly) : Assembly := (a.closeMany a.openElements.length).settle

/-- Takes in an end tag. -/
def stop (name : Text) (a : Assembly) : Assembly :=
  if isSurrounding name then
    if 0 < a.leftOut then { a with leftOut := a.leftOut - 1 }
    else if name = "head".toList then a
    else { a.closeAll with ended := true }
  else
    match openCount? name a.openNames with
    | some n => a.closeMany n
    | none => a

/-- Takes in one token. -/
def step (a : Assembly) (t : Token) : Assembly :=
  if a.ended then a
  else match t with
    | .text t => { a with gathered := a.gathered ++ t }
    | .startTag name attributes closed => a.start name attributes closed
    | .endTag name => a.stop name
    | .comment t => a.settle.push (.comment t)
    | .doctype t => a.settle.push (.doctype t)

end Assembly

/-- The nodes of a document body with these tokens; `keeps` are the elements whose blank text is
kept as it is written. -/
def nodes (keeps : Text → Bool) (ts : List Token) : List Node :=
  (ts.foldl Assembly.step { keeps }).closeAll.nodes.reverse

end LiveText.Markup
