import LiveText.Document.Tag
import LiveText.Identifier.Separation
import LiveText.Markup.Fragment
import LiveText.Text.Markup

/-!
# The text of a document

A document is read as text by a walk over its nodes: the texts are put one behind the other, a
variable tag counts as its label, and blocks are put on lines of their own. What the label of a tag
is depends on the purpose: the identifier that it stands for (`rawText`), or its text (`plainText`).

Where no fragment can be read, tags are cut off by eye (`strippedText`).
-/

set_option autoImplicit false

namespace LiveText

open Markup

/-! ## Writing the text -/

/-- What a walk has put out so far. -/
structure Walk where
  /-- the pieces of the text, the last one first -/
  pieces : List Text := []
  /-- the last piece ended in a line feed -/
  atLineStart : Bool := false
  /-- a block has just ended, so that what follows starts a new line -/
  afterBlock : Bool := false

namespace Walk

/-- The text that was put out. -/
def text (w : Walk) : Text := w.pieces.reverse.flatten

/-- Nothing but blanks was put out. -/
def allBlank (w : Walk) : Bool := w.pieces.all Text.allBlank

/-- Puts a piece out. -/
def put (piece : Text) (w : Walk) : Walk :=
  { w with pieces := piece :: w.pieces, atLineStart := piece.getLast? == some '\n' }

/-- A piece is put behind the text. -/
@[simp]
theorem text_put (piece : Text) (w : Walk) : (w.put piece).text = w.text ++ piece := by
  simp [text, put]

/-- Only blanks were put out if the text is blank. -/
theorem allBlank_eq (w : Walk) : w.allBlank = Text.allBlank w.text := by
  simp only [allBlank, text, Text.allBlank, List.all_flatten, List.all_reverse]
  rfl

/-- Ends the line of a block that has ended. -/
def breakLine (w : Walk) : Walk :=
  if w.afterBlock then { w.put ['\n'] with afterBlock := false } else w

/-- Puts out a text; blanks between blocks are left out. -/
def putText (t : Text) (w : Walk) : Walk :=
  if w.afterBlock && Text.allBlank t then w else w.breakLine.put t

/-- Starts a block: on a new line, unless nothing is in front of it. -/
def startBlock (w : Walk) : Walk :=
  if w.afterBlock then w.breakLine
  else if !w.allBlank && !w.atLineStart then w.put ['\n']
  else w

end Walk

/-! ## Walking over nodes -/

/-- Nodes after which a line break at the end of a block is still the last thing in it. -/
def Markup.Node.isBlankText : Node → Bool
  | .text _ t => Text.allBlank t
  | .comment t => Text.allBlank t
  | .doctype t => Text.allBlank t
  | .element .. => false

mutual

/-- Walks over a node; `atEnd` says that nothing follows it in its block. -/
def Markup.Node.walk (label : Element → Text) (atEnd : Bool) : Node → Walk → Walk
  | .text _ t, w => w.putText t
  | .comment _, w => w
  | .doctype _, w => w
  | .element name as children, w =>
    if isHidden name then w
    else if marksVariable as then w.breakLine.put (label ⟨name, as, children⟩)
    else if name = "br".toList then
      if atEnd then w.breakLine else w.breakLine.put ['\n']
    else if isBlock name then
      { walkAll label true children w.startBlock with afterBlock := true }
    else walkAll label false children w

/-- Walks over the children of an element; `inBlock` says that the element is a block. -/
def walkAll (label : Element → Text) (inBlock : Bool) : List Node → Walk → Walk
  | [], w => w
  | n :: ns, w =>
    walkAll label inBlock ns (n.walk label (inBlock && ns.all Node.isBlankText) w)

end

/-- The text of a fragment under a choice of labels. -/
def walkText (label : Element → Text) (ns : List Node) : Text := (walkAll label false ns {}).text

/-! ## Texts of a document -/

/-- The text of a fragment with identifiers for its variable tags, separated. -/
def rawTextOf (ns : List Node) : Text := separate (walkText Element.identifierText ns)

/-- The text of a document with identifiers for its variable tags, separated. -/
def rawText (html : Text) : Text := rawTextOf (read html)

/-- The text of a document as a reader sees it. -/
def plainText (html : Text) : Text := walkText Element.text (read html)

/-- The text of a document with its tags cut off by eye. -/
def strippedText (html : Text) : Text := decode .bare (Text.withoutTags html)

end LiveText
