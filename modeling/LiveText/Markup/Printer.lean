import LiveText.Markup.Nesting
import LiveText.Markup.Node
import LiveText.Markup.Reference

/-!
# Writing nodes

A fragment is written with the attributes of every element in the order of their names. The
characters that markup is made of are written as references in texts and values, but not in texts
that are read as they are written, those of scripts and style sheets.
-/

set_option autoImplicit false

namespace LiveText.Markup

open Text

/-! ## Attributes -/

/-- A value between quotes: double ones, unless the value holds a double and no single one. -/
def quotedValue (v : Text) : Text :=
  let v := escape v
  if '"' ∈ v then
    if '\'' ∈ v then
      '"' :: (v.flatMap (fun c => if c = '"' then "&quot;".toList else [c]) ++ ['"'])
    else '\'' :: (v ++ ['\''])
  else '"' :: (v ++ ['"'])

/-- An attribute inside a tag. -/
def Attribute.written (a : Attribute) : Text := ' ' :: (a.name ++ '=' :: quotedValue a.value)

/-- The attributes inside a tag, in the order of their names. -/
def writtenAttributes (as : List Attribute) : Text :=
  (as.mergeSort fun a b => notAfter a.name b.name).flatMap Attribute.written

/-! ## Nodes -/

/-- Whether the text of an element is written as it is. -/
def isVerbatim (name : Text) : Bool := name = "script".toList || name = "style".toList

/-- The start tag of an element. -/
def openingTag (name : Text) (as : List Attribute) : Text :=
  '<' :: (name ++ writtenAttributes as ++ ['>'])

/-- The end tag of an element. -/
def closingTag (name : Text) : Text := '<' :: '/' :: (name ++ ['>'])

/-- The tag of an element that has no content. -/
def emptyTag (name : Text) (as : List Attribute) : Text :=
  '<' :: (name ++ writtenAttributes as ++ ['/', '>'])

mutual

/-- A node as it is written; `verbatim` says that it stands in an element whose text is written as
it is. -/
def Node.write (verbatim : Bool) : Node → Text
  | .text _ t => if verbatim then t else escape t
  | .comment t => "<!--".toList ++ t ++ "-->".toList
  | .doctype t => "<!DOCTYPE ".toList ++ t ++ ">\n".toList
  | .element name as [] =>
    if isWrittenVoid name then emptyTag name as else openingTag name as ++ closingTag name
  | .element name as (n :: ns) =>
    openingTag name as ++ (n.write (isVerbatim name) ++ writeAll (isVerbatim name) ns) ++
      closingTag name

/-- Nodes as they are written, one behind the other. -/
def writeAll (verbatim : Bool) : List Node → Text
  | [] => []
  | n :: ns => n.write verbatim ++ writeAll verbatim ns

end

/-- A fragment as it is written. -/
def write (ns : List Node) : Text := writeAll false ns

end LiveText.Markup
