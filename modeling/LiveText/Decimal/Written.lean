import LiveText.Decimal.Shortest
import LiveText.Text.Basic

/-!
# Written numbers

How the numbers of a catalog are written: whole numbers in decimal digits, floating-point numbers
with the fewest digits that read back as the same number. A floating-point number always shows that
it is one, by a point or by an exponent; the exponent is used from `1e+16` on and below `1e-04`.
-/

set_option autoImplicit false

namespace LiveText.Decimal

/-- A natural number in decimal digits. -/
def ofNat (n : Nat) : Text := Nat.toDigits 10 n

/-- A whole number in decimal digits. -/
def ofInt : Int → Text
  | .ofNat n => ofNat n
  | .negSucc n => '-' :: ofNat (n + 1)

/-- The digits of a number without the zeros at their end, and the number of those zeros. -/
def stripZeros (ds : Text) : Text × Nat :=
  let kept := (ds.reverse.dropWhile (· == '0')).reverse
  (kept, ds.length - kept.length)

/-- The exponent of a number, with its sign and at least two digits. -/
def exponentText (e : Int) : Text :=
  let ds := ofNat e.natAbs
  'e' :: (if e < 0 then '-' else '+') :: (if ds.length < 2 then '0' :: ds else ds)

/-- A positive decimal as it is written: positional while the leading digit stands for a power of
ten from `10⁻⁴` to `10¹⁵`. -/
def written (d : Decimal) : Text :=
  let (ds, zeros) := stripZeros (ofNat d.digits)
  let point : Int := d.point + zeros + ds.length
  if -4 ≤ point - 1 ∧ point - 1 < 16 then
    if point ≤ 0 then '0' :: '.' :: (List.replicate (-point).toNat '0' ++ ds)
    else
      let n := point.toNat
      if ds.length ≤ n then ds ++ List.replicate (n - ds.length) '0' ++ ['.', '0']
      else ds.take n ++ '.' :: ds.drop n
  else
    (match ds with
      | [] => []
      | [c] => [c]
      | c :: cs => c :: '.' :: cs) ++ exponentText (point - 1)

/-- A floating-point number as it is written. -/
def ofFloat (x : Float) : Text :=
  let bits : Nat := x.toBits.toNat
  let sign : Text := if bits / Nat.pow 2 63 = 1 then ['-'] else []
  let biased : Nat := bits / Nat.pow 2 52 % Nat.pow 2 11
  let fraction : Nat := bits % Nat.pow 2 52
  if biased = 2047 then
    if fraction = 0 then sign ++ "inf".toList else "nan".toList
  else if biased = 0 then
    if fraction = 0 then sign ++ "0.0".toList
    else sign ++ written (shortest fraction (-1074))
  else sign ++ written (shortest (Nat.pow 2 52 + fraction) ((biased : Int) - 1075))

end LiveText.Decimal
