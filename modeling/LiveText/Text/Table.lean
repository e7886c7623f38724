import Std.Data.HashMap
import LiveText.Text.Basic

/-!
# Tables of character properties

A property of characters is written down as a string of entries with spaces or line feeds between
them. An entry starts with one code in hexadecimal digits or with a range of codes, `LO-HI`. In a
mapping an image follows an equals sign: the codes of the image with dots between them. The codes
of a range are mapped to consecutive codes; `LO-HI/2` stands for every second code of the range.

## What is here

* `Ranges` is a set of characters, `Mapping` a map from characters to texts that leaves every
  character without an entry as it is.
* `classesOfEntries` and `pairsOfEntries` read tables of numbers and of pairs.
-/

set_option autoImplicit false

namespace LiveText.Text

/-! ## Entries -/

/-- The number that hexadecimal digits of upper case stand for. -/
def hexNumber (t : Text) : Nat :=
  t.foldl (fun n c => 16 * n + (if c.isDigit then c.toNat - 48 else c.toNat - 55)) 0

/-- An entry of a table. -/
structure TableEntry where
  first : Nat
  last : Nat
  step : Nat
  image : List Nat

/-- Reads one entry. -/
def TableEntry.ofText (t : Text) : TableEntry :=
  let source := t.takeWhile (· != '=')
  let image := t.drop (source.length + 1)
  let codes := if image.isEmpty then [] else (pieces '.' image).map hexNumber
  let range := source.takeWhile (· != '/')
  let step := if source.length = range.length then 1 else 2
  match pieces '-' range with
  | [lo, hi] => ⟨hexNumber lo, hexNumber hi, step, codes⟩
  | _ => ⟨hexNumber range, hexNumber range, step, codes⟩

/-- Reads the entries of a table. -/
def tableEntries (s : String) : List TableEntry :=
  let words := (pieces '\n' s.toList).flatMap (pieces ' ')
  (words.filter (· != [])).map TableEntry.ofText

/-! ## Sets of characters -/

/-- A set of characters, as ranges of codes. -/
structure Ranges where
  ranges : List (Nat × Nat)

namespace Ranges

/-- The set that a table of entries without images stands for. -/
def ofEntries (s : String) : Ranges := ⟨(tableEntries s).map fun e => (e.first, e.last)⟩

/-- Whether a character is in the set. -/
def has (r : Ranges) (c : Char) : Bool :=
  r.ranges.any fun (lo, hi) => lo ≤ c.toNat && c.toNat ≤ hi

end Ranges

/-! ## Maps of characters -/

/-- A map from characters to texts. -/
structure Mapping where
  images : Std.HashMap Nat Text

namespace Mapping

/-- The map that a table of entries stands for. -/
def ofEntries (s : String) : Mapping :=
  ⟨(tableEntries s).foldl (fun m e =>
    (List.range' e.first ((e.last - e.first) / e.step + 1) e.step).foldl (fun m n =>
      m.insert n (match e.image with
        | [i] => [Char.ofNat (i + (n - e.first))]
        | is => is.map Char.ofNat)) m) ∅⟩

/-- What a character is mapped to. -/
def image (m : Mapping) (c : Char) : Text := m.images.getD c.toNat [c]

end Mapping

/-- A table that gives each character of an entry one number. -/
def classesOfEntries (s : String) : Std.HashMap Nat Nat :=
  (tableEntries s).foldl (fun m e =>
    let codes := List.range' e.first (e.last - e.first + 1)
    codes.foldl (fun m n => m.insert n (e.image.headD 0)) m) ∅

/-- A table that gives the pair of codes in each image the code of the entry. -/
def pairsOfEntries (s : String) : Std.HashMap (Nat × Nat) Nat :=
  (tableEntries s).foldl (fun m e =>
    match e.image with
    | [a, b] => m.insert (a, b) e.first
    | _ => m) ∅

end LiveText.Text
