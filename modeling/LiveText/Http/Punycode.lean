import LiveText.Text.Basic

/-!
# Labels in ASCII

The name of a host is made of labels, and each label is sent in ASCII. `encode` writes a label with
other characters in ASCII: first the characters that are ASCII, then, in ascending order of the
others, how far it is from each to the next one. These distances are numbers in base 36 whose digits
have thresholds; the thresholds follow a bias, which adapts to the distances seen so far.
-/

set_option autoImplicit false

namespace LiveText.Http.Punycode

/-- The digit of a value: the letters, and then the decimal digits. -/
def digit (n : Nat) : Char := if n < 26 then Char.ofNat (97 + n) else Char.ofNat (22 + n)

/-- The threshold of the digit at a place, where places are counted in steps of 36. -/
def threshold (place bias : Nat) : Nat := max 1 (min 26 (place - bias))

theorem threshold_pos (place bias : Nat) : 1 ≤ threshold place bias := Nat.le_max_left ..

/-- A distance in digits. -/
def digits (bias place n : Nat) : Text :=
  let t := threshold place bias
  if n < t then [digit n]
  else digit (t + (n - t) % (36 - t)) :: digits bias (place + 36) ((n - t) / (36 - t))
termination_by n
decreasing_by
  have h := threshold_pos place bias
  have hle := Nat.div_le_self (n - threshold place bias) (36 - threshold place bias)
  omega

/-- How often a distance is scaled down until it is small, in steps of 36, and what is left. -/
def scaled (place n : Nat) : Nat × Nat :=
  if 455 < n then scaled (place + 36) (n / 35) else (place, n)
termination_by n
decreasing_by exact Nat.div_lt_self (by omega) (by omega)

/-- The bias after a distance, when so many characters have been written. -/
def adapted (distance count : Nat) (first : Bool) : Nat :=
  let n := if first then distance / 700 else distance / 2
  let (place, n) := scaled 0 (n + n / count)
  place + 36 * n / (n + 38)

/-- Where writing is. -/
structure Progress where
  output : Text
  distance : Nat := 0
  bias : Nat := 72
  /-- how many characters have been written -/
  count : Nat

/-- Passes a character of the label, while `code` is being written. -/
def Progress.pass (ascii code : Nat) (p : Progress) (c : Char) : Progress :=
  if c.toNat < code then { p with distance := p.distance + 1 }
  else if c.toNat = code then
    { output := p.output ++ digits p.bias 36 p.distance
      bias := adapted p.distance (p.count + 1) (p.count = ascii)
      count := p.count + 1 }
  else p

/-- Writes the codes of a label one after the other; `next` is the least code that may come. -/
def Progress.write (label : Text) (ascii : Nat) : (next : Nat) → List Nat → Progress → Progress
  | _, [], p => p
  | next, code :: codes, p =>
    let p := { p with distance := p.distance + (code - next) * (p.count + 1) }
    let p := label.foldl (pass ascii code) p
    write label ascii (code + 1) codes { p with distance := p.distance + 1 }

/-- A label in ASCII. -/
def encode (label : Text) : Text :=
  let (plain, others) := label.partition fun c => c.toNat < 128
  let codes := ((others.map Char.toNat).mergeSort).eraseDups
  let start : Text := if plain.isEmpty then [] else plain ++ ['-']
  (Progress.write label plain.length 128 codes { output := start, count := plain.length }).output

end LiveText.Http.Punycode
