import LiveText.Text.Basic

/-!
# Which element ends where

Many elements end without an end tag of their own: a paragraph ends where the next one starts, a
cell where the next row starts. An end tag, on the other hand, may only reach over open elements
that weigh no more than its own, so that a stray one inside a table does not end the table.

## What is here

* `endsBefore` says which start tags end which innermost element, `weight` how much an element
  weighs.
* `openCount?` counts how many elements an end tag closes.
* `isVoid` and `isWrittenVoid` are the elements that have no content when read and when written.
-/

set_option autoImplicit false

namespace LiveText.Markup

/-- The words of a list. -/
def names (s : String) : List Text := Text.words s.toList

/-! ## Start tags -/

/-- For each element the start tags that end it when it is the innermost open one. -/
def endingTags : List (List Text × List Text) :=
  [("a", "a fieldset table td th"),
   ("address", "dd dl dt form li ul"),
   ("b", "center p td th"),
   ("big s small strike tt", "p"),
   ("caption", "col colgroup tbody tfoot thead tr"),
   ("col colgroup", "col colgroup tbody tfoot thead tr"),
   ("dd", "dt"),
   ("dir menu", "dd dl dt form ul"),
   ("dl", "form li"),
   ("dt", "dd dl"),
   ("font", "center td th"),
   ("form", "form"),
   ("h1 h2 h3 h4 h5 h6", "fieldset form li p table"),
   ("hr ol", "form"),
   ("i", "center p td th"),
   ("legend", "fieldset"),
   ("li", "li"),
   ("link style title", "body frameset"),
   ("listing xmp", "dd dl dt fieldset form li table ul"),
   ("option", "optgroup option"),
   ("p", "address blockquote body caption center col colgroup dd dir div dl dt fieldset form
          frameset h1 h2 h3 h4 h5 h6 head hr li listing menu multicol ol p pre table tbody td tfoot
          th title tr ul xmp"),
   ("pre", "dd dl dt fieldset form li table ul"),
   ("script", "noscript"),
   ("span", "td th"),
   ("tbody", "tbody tfoot"),
   ("td th", "tbody td tfoot th tr"),
   ("tfoot", "tbody"),
   ("thead", "tbody tfoot"),
   ("tr", "tbody tfoot tr"),
   ("u", "p td th"),
   ("ul", "address form menu pre")].map fun (ended, tags) => (names ended, names tags)

/-- Whether a start tag ends the innermost open element. -/
def endsBefore (tag innermost : Text) : Bool :=
  endingTags.any fun (ended, tags) => ended.contains innermost && tags.contains tag

/-! ## End tags -/

/-- The weights that differ from the ordinary one. -/
def weights : List (List Text × Nat) :=
  [(names "div", 150), (names "td th", 160), (names "tr", 170), (names "thead tbody tfoot", 180),
   (names "table", 190), (names "head body", 200), (names "html", 220)]

/-- The weight of an element. -/
def weight (name : Text) : Nat :=
  match weights.find? (·.1.contains name) with
  | some (_, w) => w
  | none => 100

/-- How many of the open elements, innermost first, an end tag closes: those up to the nearest one
of its name, unless a heavier one is met before. -/
def openCount? (name : Text) : List Text → Option Nat
  | [] => none
  | innermost :: outer =>
    if innermost = name then some 1
    else if weight name < weight innermost then none
    else (openCount? name outer).map (· + 1)

/-! ## Elements without content -/

/-- Elements that never have content. -/
def voidNames : List Text :=
  names "area base br col embed hr img input link meta param source track wbr"

/-- Older elements that never had content. -/
def oldVoidNames : List Text :=
  names "basefont bgsound command frame image isindex keygen menuitem nextid spacer"

/-- Whether an element is closed by its start tag. -/
def isVoid (name : Text) : Bool := voidNames.contains name

/-- Whether an element without content is written as one tag. -/
def isWrittenVoid (name : Text) : Bool := voidNames.contains name || oldVoidNames.contains name

/-! ## Elements around the fragment -/

/-- The elements that stand around a fragment and are left out inside it. -/
def isSurrounding (name : Text) : Bool := (names "html head body").contains name

/-- The elements whose blank text is kept as it is written. -/
def keepsBlanks (name : Text) : Bool := (names "pre textarea").contains name

end LiveText.Markup
