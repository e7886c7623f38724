import LiveText.Markup.Assembly
import LiveText.Markup.Printer
import LiveText.Text.Markup

/-!
# Fragments

A fragment is read as the content of a `div` in the body of a document. Surplus end tags in the
fragment may close that wrapper early; what follows it is still part of the fragment, so the wrapper
is dissolved and not cut out.
-/

set_option autoImplicit false

namespace LiveText.Markup

open Text

/-- The name of the element around a fragment. -/
def wrapperName : Text := "div".toList

/-- The text with a line feed for every carriage return, with or without a line feed behind it, and
with the replacement character for every null character. -/
def prepared : Text → Text
  | [] => []
  | '\r' :: '\n' :: t => '\n' :: prepared t
  | c :: t =>
    (if c = '\r' then '\n' else if c.toNat = 0 then Char.ofNat 0xFFFD else c) :: prepared t

/-- The nodes with the children of the first `div` among them in its place. -/
def dissolveWrapper : List Node → List Node
  | [] => []
  | .element name as children :: ns =>
    if name = wrapperName then children ++ ns
    else .element name as children :: dissolveWrapper ns
  | n :: ns => n :: dissolveWrapper ns

/-- Reads a fragment; `keeps` are the elements whose blank text is kept as it is written. -/
def readWith (keeps : Text → Bool) (t : Text) : List Node :=
  dissolveWrapper (nodes keeps (tokens (prepared ("<div>".toList ++ t ++ "</div>".toList))))

/-- Reads a fragment. -/
def read (t : Text) : List Node := readWith keepsBlanks t

/-- The text of a fragment; what holds no tag is a text already. -/
def withoutMarkup (t : Text) : Text := if hasMarkup t then textIn .prose (read t) else t

end LiveText.Markup
