import LiveText.Document.Walk
import LiveText.Registry.Basic

/-!
# Documents from text

A document is kept in three forms: its markup, its raw text with identifiers, and its plain text as
a reader sees it. `Renderer.render` makes a document of raw text, one paragraph to a line;
`Renderer.renderMarkup` takes markup and only puts in the variable tags. A `Content` holds the three
forms of one document.
-/

set_option autoImplicit false

namespace LiveText

open Markup

namespace Renderer

/-- The renderer that shows the records of a registry. -/
def ofRegistry (g : Registry) : Renderer :=
  { records := some g.snapshot, shortIdLength := g.shortIdLength }

/-! ## Putting tags in -/

/-- The nodes of a token sequence: a tag for each identifier, and text between them. -/
def ofTokens (r : Renderer) : List LiveText.Token → List Node
  | [] => []
  | .identifier i :: ts => r.tag i :: r.ofTokens ts
  | .char c :: ts =>
    match r.ofTokens ts with
    | .text .prose t :: ns => .prose (c :: t) :: ns
    | ns => .prose [c] :: ns

/-- The nodes for a text: a tag for each identifier, and text between them. -/
def ofText (r : Renderer) (t : Text) : List Node := r.ofTokens (LiveText.tokens t)

mutual

/-- A node with tags for the identifiers in its texts, those of variable tags and hidden elements
apart. -/
def tagNode (r : Renderer) : Node → List Node
  | .text region t => if (occurrences t).isEmpty then [.text region t] else r.ofText t
  | .element name as children =>
    if marksVariable as || isHidden name then [.element name as children]
    else [.element name as (r.tagNodes children)]
  | n => [n]

/-- Nodes with tags for the identifiers in their texts. -/
def tagNodes (r : Renderer) : List Node → List Node
  | [] => []
  | n :: ns => r.tagNode n ++ r.tagNodes ns

end

/-! ## Rendering -/

/-- The nodes of a document with this raw text: one paragraph to a line. -/
def paragraphs (r : Renderer) (raw : Text) : List Node :=
  (Text.lines (separate (Text.unifyLineEnds raw))).map fun l =>
    .element paragraphName [] (r.ofText l)

/-- A document with this raw text; there is none for the empty text. -/
def render (r : Renderer) (raw : Text) : Text :=
  if raw.isEmpty then [] else write (r.paragraphs raw)

/-- A letter for the comparison with names of elements: beside the ASCII letters, four other
letters count as one of them. -/
def foldLetter (c : Char) : Char :=
  if c.toNat = 0x17F then 's'
  else if c.toNat = 0x212A then 'k'
  else if c.toNat = 0x130 ∨ c.toNat = 0x131 then 'i'
  else c.toLower

/-- The elements that a document may start with without a paragraph around it. -/
def openingBlocks : List Text :=
  ["p", "div", "ul", "ol", "blockquote", "pre", "section", "article", "table", "h1", "h2", "h3",
    "h4", "h5", "h6"].map String.toList

/-- Whether a text with markup starts with a block. -/
def startsWithBlock (t : Text) : Bool :=
  match t.dropWhile Text.isBlank with
  | '<' :: r =>
    let inName (c : Char) : Bool := !(Text.isBlank c || c == '>' || c == '/')
    openingBlocks.contains ((r.takeWhile inName).map foldLetter) && !(r.dropWhile inName).isEmpty
  | _ => false

/-- A document with this markup and with tags for the identifiers in it; a paragraph is put around
it unless it starts with a block. -/
def renderMarkup (r : Renderer) (markup : Text) : Text :=
  if markup.isEmpty then []
  else
    let t := separate (Text.unifyLineEnds markup)
    let wrapped := openingTag paragraphName [] ++ t ++ closingTag paragraphName
    write (r.tagNodes (read (if startsWithBlock t then t else wrapped)))

end Renderer

/-! ## Contents -/

/-- A document in its three forms. -/
structure Content where
  html : Text := []
  raw : Text := []
  plain : Text := []
  deriving DecidableEq

namespace Content

/-- The content with this markup. -/
def ofHtml (html : Text) : Content := { html, raw := rawText html, plain := plainText html }

/-- The content with this raw text. -/
def ofRaw (r : Renderer) (raw : Text) : Content := ofHtml (r.render raw)

/-- The content with this markup, once tags are put in. -/
def ofMarkup (r : Renderer) (markup : Text) : Content := ofHtml (r.renderMarkup markup)

end Content
end LiveText
