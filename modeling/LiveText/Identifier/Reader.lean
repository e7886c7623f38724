import LiveText.Identifier.Basic

/-!
# Reading one identifier

`Identifier.read` reads the identifier at the start of a text. The three forms overlap, so they
are tried in a fixed order: the legacy form, then the display form, so that `@gv_abc.name` is a
display identifier whose source is `gv_abc`, then the system form.

Every part is as long as it can be, with one exception: an id before a single underscore that no
field follows would end in the middle of a word, and is cut back to its last hyphen.

## What is here

* `readLegacy`, `readDisplay`, `readSystem` read a form behind the at sign, `read` any form.
* `read_append` says that the identifier as written and the rest make up the text.
* `opensAfter` is the left boundary: no identifier starts right behind a word character.
-/

set_option autoImplicit false

namespace LiveText

open Text

namespace Identifier

/-! ## The three forms -/

/-- Reads `gv_kind_id_field-=`. -/
def readLegacy (t : Text) : Option (Identifier × Text) := do
  let t ← literal? systemMark t
  let (kind, t) ← run? Char.isAlpha t
  let t ← literal? ['_'] t
  let (id, t) ← run? isIdChar t
  let t ← literal? ['_'] t
  let (field, t) ← run? isWord t
  let t ← literal? ['-', '='] t
  return (legacy kind id field, t)

/-- Reads `#` and four to six letters or digits that no underscore follows. -/
def readShortId (t : Text) : Option (Text × Text) := do
  let t ← literal? ['#'] t
  let (h, t) ← run? Char.isAlphanum t
  if 4 ≤ h.length ∧ h.length ≤ 6 ∧ t.head? ≠ some '_' then some (h, t) else none

/-- Reads `source.field`, and the short id behind it when there is one. -/
def readDisplay (t : Text) : Option (Identifier × Text) := do
  let (source, t) ← run? isNameChar t
  let t ← literal? ['.'] t
  let (field, t) ← run? isWord t
  match readShortId t with
  | some (h, r) => return (display source field (some h), r)
  | none => return (display source field none, t)

/-- Splits an id before its last hyphen, which must not be its first character. -/
def cutBack (id : Text) : Option (Text × Text) :=
  let back := id.reverse.takeWhile (· != '-')
  match id.reverse.dropWhile (· != '-') with
  | _ :: c :: front => some ((c :: front).reverse, '-' :: back.reverse)
  | _ => none

/-- Reads `gv_id`, and the field behind it when there is one. -/
def readSystem (t : Text) : Option (Identifier × Text) := do
  let t ← literal? systemMark t
  let (id, t) ← run? isIdChar t
  match t with
  | '_' :: u =>
    match run? isWord u with
    | some (field, r) => return (system id (some field), r)
    | none =>
      let (front, back) ← cutBack id
      return (system front none, back ++ t)
  | _ => return (system id none, t)

/-- Reads the identifier at the start of a text; gives it with the rest of the text. -/
def read : Text → Option (Identifier × Text)
  | '@' :: t => (readLegacy t).or ((readDisplay t).or (readSystem t))
  | _ => none

/-! ## Nothing is lost -/

theorem optionalPart_some {mark : Char} {t : Text} (h : t ≠ []) :
    optionalPart mark (some t) = mark :: t := by
  cases t with
  | nil => exact absurd rfl h
  | cons c cs => rfl

theorem readLegacy_append {t r : Text} {i : Identifier} (h : readLegacy t = some (i, r)) :
    t = i.body ++ r := by
  simp only [readLegacy, Option.bind_eq_bind, Option.bind_eq_some_iff, Option.pure_def,
    Option.some.injEq, Prod.mk.injEq, Prod.exists] at h
  obtain ⟨t₁, h₁, kind, t₂, h₂, t₃, h₃, id, t₄, h₄, t₅, h₅, field, t₆, h₆, t₇, h₇, rfl, rfl⟩ := h
  rw [literal?_append h₁, run?_append h₂, literal?_append h₃, run?_append h₄, literal?_append h₅,
    run?_append h₆, literal?_append h₇]
  simp [body]

theorem readShortId_append {t h r : Text} (hr : readShortId t = some (h, r)) :
    t = optionalPart '#' (some h) ++ r := by
  simp only [readShortId, Option.bind_eq_bind, Option.bind_eq_some_iff, Prod.exists] at hr
  obtain ⟨t₁, h₁, h', t₂, h₂, hr⟩ := hr
  split at hr
  · simp only [Option.some.injEq, Prod.mk.injEq] at hr
    obtain ⟨rfl, rfl⟩ := hr
    rw [optionalPart_some (run?_ne_nil h₂), literal?_append h₁, run?_append h₂]
    simp
  · simp at hr

theorem readDisplay_append {t r : Text} {i : Identifier} (h : readDisplay t = some (i, r)) :
    t = i.body ++ r := by
  simp only [readDisplay, Option.bind_eq_bind, Option.bind_eq_some_iff, Option.pure_def,
    Prod.exists] at h
  obtain ⟨source, t₁, h₁, t₂, h₂, field, t₃, h₃, h⟩ := h
  rw [run?_append h₁, literal?_append h₂, run?_append h₃]
  split at h
  · next h' r' hs =>
    simp only [Option.some.injEq, Prod.mk.injEq] at h
    obtain ⟨rfl, rfl⟩ := h
    rw [readShortId_append hs]
    simp [body]
  · simp only [Option.some.injEq, Prod.mk.injEq] at h
    obtain ⟨rfl, rfl⟩ := h
    simp [body, optionalPart]

theorem cutBack_append {id front back : Text} (h : cutBack id = some (front, back)) :
    id = front ++ back := by
  unfold cutBack at h
  have hd : ∀ {l : Text} {x : Char} {xs : Text}, l.dropWhile (· != '-') = x :: xs → x = '-' := by
    intro l x xs hl
    induction l with
    | nil => simp at hl
    | cons a l ih =>
      rw [List.dropWhile_cons] at hl
      split at hl
      · exact ih hl
      · next hna => cases hl; simpa using hna
  have hta := List.takeWhile_append_dropWhile (p := (· != '-')) (l := id.reverse)
  split at h
  · next x c fr hdrop =>
    simp only [Option.some.injEq, Prod.mk.injEq] at h
    obtain ⟨rfl, rfl⟩ := h
    rw [hdrop, hd hdrop] at hta
    have := congrArg List.reverse hta
    rw [List.reverse_reverse] at this
    refine this.symm.trans ?_
    simp
  · simp at h

theorem readSystem_append {t r : Text} {i : Identifier} (h : readSystem t = some (i, r)) :
    t = i.body ++ r := by
  simp only [readSystem, Option.bind_eq_bind, Option.bind_eq_some_iff, Option.pure_def,
    Prod.exists] at h
  obtain ⟨t₁, h₁, id, t₂, h₂, h⟩ := h
  rw [literal?_append h₁, run?_append h₂]
  split at h
  · next u =>
    split at h
    · next field r' hf =>
      simp only [Option.some.injEq, Prod.mk.injEq] at h
      obtain ⟨rfl, rfl⟩ := h
      rw [run?_append hf, body, optionalPart_some (run?_ne_nil hf)]
      simp
    · simp only [Option.bind_eq_some_iff, Option.some.injEq, Prod.mk.injEq, Prod.exists] at h
      obtain ⟨front, back, hc, rfl, rfl⟩ := h
      rw [cutBack_append hc]
      simp [body, optionalPart]
  · simp only [Option.some.injEq, Prod.mk.injEq] at h
    obtain ⟨rfl, rfl⟩ := h
    simp [body, optionalPart]

/-- The identifier as it is written and the rest make up the text. -/
theorem read_append {t r : Text} {i : Identifier} (h : read t = some (i, r)) :
    t = i.text ++ r := by
  unfold read at h
  split at h
  · next u =>
    simp only [Option.or_eq_some_iff] at h
    rw [text, List.cons_append]
    congr 1
    rcases h with h | ⟨-, h | ⟨-, h⟩⟩
    · exact readLegacy_append h
    · exact readDisplay_append h
    · exact readSystem_append h
  · simp at h

/-- Reading an identifier leaves less text. -/
theorem length_lt_of_read {t r : Text} {i : Identifier} (h : read t = some (i, r)) :
    r.length < t.length := by
  rw [read_append h, List.length_append]
  have := length_text_pos i
  omega

/-! ## The left boundary -/

/-- Whether an identifier may start behind this character; at the start of a text it may. -/
def opensAfter : Option Char → Bool
  | none => true
  | some c => !isWord c

/-- Reads the identifier at the start of a text that follows the character `prev`. -/
def readAfter (prev : Option Char) (t : Text) : Option (Identifier × Text) :=
  if opensAfter prev then read t else none

theorem read_of_readAfter {prev : Option Char} {t r : Text} {i : Identifier}
    (h : readAfter prev t = some (i, r)) : read t = some (i, r) := by
  unfold readAfter at h
  split at h
  · exact h
  · simp at h

theorem length_lt_of_readAfter {prev : Option Char} {t r : Text} {i : Identifier}
    (h : readAfter prev t = some (i, r)) : r.length < t.length :=
  length_lt_of_read (read_of_readAfter h)

/-- Reads the single identifier that a text, less the blanks around it, consists of. -/
def parse? (t : Text) : Option Identifier :=
  match read (trim t) with
  | some (i, []) => some i
  | _ => none

end Identifier
end LiveText
