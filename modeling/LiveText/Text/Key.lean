import LiveText.Text.Fold
import LiveText.Text.Normal

/-!
# Lookup keys

Names are compared under three readings, from strict to lenient: as they are written, without
regard to case, and normalized. `looseKey` is the key of the second reading, `normalKey` that of the
third.
-/

set_option autoImplicit false

namespace LiveText.Text

/-- The text with every run of blanks replaced by one space. -/
def squeeze : Text → Text
  | [] => []
  | c :: cs =>
    if isBlank c then
      match cs with
      | d :: _ => if isBlank d then squeeze cs else ' ' :: squeeze cs
      | [] => [' ']
    else c :: squeeze cs

/-- The key of a name without regard to case and to blanks around it. -/
def looseKey (t : Text) : Text := fold (trim t)

/-- The key of a name in compatibility normal form, without regard to case, with single spaces for
runs of blanks and none around it. -/
def normalKey (t : Text) : Text := fold (trim (squeeze (compatible t)))

end LiveText.Text
