/-!
# Shortest decimals

A binary floating-point number stands for every real that rounds to it. `shortest` gives the
decimal with the fewest digits among those reals, and of several with that few digits the one
nearest to the number.

A finite positive number is `mantissa * 2 ^ exponent`. The reals that round to it lie between the
midpoints to its two neighbours; the midpoints belong to them when the mantissa is even. All
comparisons are made on whole numbers.
-/

set_option autoImplicit false

namespace LiveText

/-- The decimal `digits * 10 ^ point`. -/
structure Decimal where
  digits : Nat
  point : Int

namespace Decimal

/-- The reals that round to a binary number, as numerators over one denominator. -/
structure RoundingInterval where
  low : Nat
  value : Nat
  high : Nat
  denominator : Nat
  closed : Bool

/-- The rounding interval of `mantissa * 2 ^ exponent`. Below a power of two the neighbours are
closer together, unless they have the least exponent of all. -/
def roundingInterval (mantissa : Nat) (exponent : Int) : RoundingInterval :=
  let narrow := mantissa = Nat.pow 2 52 ∧ exponent ≠ -1074
  let scale := Nat.pow 2 exponent.toNat
  { low := (4 * mantissa - (if narrow then 1 else 2)) * scale
    value := 4 * mantissa * scale
    high := (4 * mantissa + 2) * scale
    denominator := 4 * Nat.pow 2 (-exponent).toNat
    closed := mantissa % 2 = 0 }

/-- The number of digits before the point of a fraction that is at least one. -/
def digitCount (numerator denominator : Nat) : Nat :=
  (Nat.toDigits 10 (numerator / denominator)).length

/-- The exponent `p` with `10 ^ (p - 1) ≤ numerator / denominator < 10 ^ p`. -/
def pointOf (numerator denominator : Nat) : Int :=
  if denominator ≤ numerator then digitCount numerator denominator
  else match (List.range 400).find? fun k => denominator ≤ numerator * Nat.pow 10 (k + 1) with
    | some k => -(k : Int)
    | none => 0

/-- The candidate with `count` digits that lies in the interval and is nearest to its value. -/
def candidate? (i : RoundingInterval) (point : Int) (count : Nat) : Option Decimal :=
  -- one unit of the last digit is `10 ^ (point - count)`
  let shift := point - count
  let up := Nat.pow 10 shift.toNat
  let down := Nat.pow 10 (-shift).toNat
  let value := i.value * down
  let unit := i.denominator * up
  let inside (n : Nat) : Bool :=
    if i.closed then i.low * down ≤ n * unit && n * unit ≤ i.high * down
    else i.low * down < n * unit && n * unit < i.high * down
  let below := value / unit
  let above := below + 1
  match decide (below ≠ 0) && inside below, inside above with
  | true, true =>
    let toBelow := value - below * unit
    let toAbove := above * unit - value
    if toBelow < toAbove || (toBelow == toAbove && below % 2 == 0) then some ⟨below, shift⟩
    else some ⟨above, shift⟩
  | true, false => some ⟨below, shift⟩
  | false, true => some ⟨above, shift⟩
  | false, false => none

/-- The shortest decimal that rounds to `mantissa * 2 ^ exponent`; seventeen digits are always
enough. -/
def shortest (mantissa : Nat) (exponent : Int) : Decimal :=
  let i := roundingInterval mantissa exponent
  let point := pointOf i.value i.denominator
  ((List.range' 1 17).findSome? (candidate? i point)).getD ⟨mantissa, exponent⟩

end Decimal
end LiveText
