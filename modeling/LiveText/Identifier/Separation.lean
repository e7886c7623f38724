import LiveText.Identifier.Scan

/-!
# Separating identifiers written back to back

An identifier that another one follows without a gap would run into it: `@a.b@c.d` holds only one
identifier, since none starts right behind a word character. `separate` puts one space between the
two, `separatedOccurrences` gives the identifiers of the separated text.

One pass from the left is enough. The space that is put in front of an identifier opens it, so the
next gap is found by the same pass.
-/

set_option autoImplicit false

namespace LiveText

open Text

namespace Identifier

/-- Whether an identifier of the display or the system form could start here, whatever follows
it. -/
def startsBare : Text → Bool
  | '@' :: t =>
    (match literal? ['.'] (t.dropWhile isNameChar) with
      | some (c :: _) => (t.head?.any isNameChar) && isWord c
      | _ => false) ||
    (match literal? systemMark t with
      | some (c :: _) => isIdChar c
      | _ => false)
  | _ => false

/-- Whether a space belongs between this identifier and the text behind it. -/
def needsGap (i : Identifier) (rest : Text) : Bool := !i.isLegacy && startsBare rest

end Identifier

/-- Separates the identifiers of a text that follows the character `prev`. -/
def separateAfter (prev : Option Char) (t : Text) : Text :=
  match _h : Identifier.readAfter prev t with
  | some (i, r) =>
    if i.needsGap r then i.text ++ ' ' :: separateAfter (some ' ') r
    else i.text ++ separateAfter i.lastChar r
  | none =>
    match t with
    | [] => []
    | c :: cs => c :: separateAfter (some c) cs
termination_by t.length
decreasing_by
  · exact Identifier.length_lt_of_readAfter ‹_›
  · exact Identifier.length_lt_of_readAfter ‹_›
  · simp

/-- The text with one space between identifiers that are written back to back. -/
def separate (t : Text) : Text := separateAfter none t

/-- The identifiers of a text once it is separated; their offsets refer to the separated text. -/
def separatedOccurrences (t : Text) : List Occurrence := occurrences (separate t)

end LiveText
