import LiveText.Text.Basic

/-!
# Previews

`preview` shortens a text to a number of characters. It prefers to end behind the first separator
among the last twenty characters that are kept, and then leaves out the blanks before its end.
-/

set_option autoImplicit false

namespace LiveText.Text

/-- The characters behind which a preview may end. -/
def separators : List Char := [' ', '\n', '\t', ',', '.', ';', ':', '。', '，', '、']

/-- The text up to and with its first separator. -/
def throughSeparator? : Text → Option Text
  | [] => none
  | c :: cs => if c ∈ separators then some [c] else (throughSeparator? cs).map (c :: ·)

/-- The first `limit` characters of a longer text, cut back to a separator near their end, with
`suffix` behind them; a text that is not longer stays as it is. -/
def preview (limit : Int) (suffix : Text) (t : Text) : Text :=
  if t.isEmpty || (t.length : Int) ≤ limit then t
  else
    let kept := upTo limit t
    let tail := kept.length - (min 20 (limit - 1)).toNat
    match throughSeparator? (kept.drop tail) with
    | some u => trimEnd (kept.take tail ++ u) ++ suffix
    | none => kept ++ suffix

end LiveText.Text
