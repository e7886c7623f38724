import LiveText.Proofs.Identifier.Parsing

/-!
# How identifiers are spelled

The parts of an identifier are put together with marks that the parts may hold themselves: an id may
hold hyphens, a field underscores, and a source may begin like a system identifier; the field of a
system identifier and the short id of a display identifier may be missing. Still the characters say
what the parts are, since each part is as long as it can be where the text of the identifier ends.

## What is here

* `parse?_text_iff`: the identifiers that are parsed back from their own text are the well-formed
  ones.
* `ofParts?` puts an identifier together from its parts. Only the kind of a legacy identifier is no
  such part (`fromParts?_eq_some_iff`).
* **`text_inverse_parse?`**: writing and parsing are inverse to each other, and what is found in a
  text is spelled there as its parts are written.
-/

set_option autoImplicit false

namespace LiveText

open Text

namespace Identifier

/-- Parsed back from their own text are the well-formed identifiers, and no other ones. -/
theorem parse?_text_iff {i : Identifier} : parse? i.text = some i ↔ i.WellFormed :=
  ⟨fun h => (parse?_eq_some_iff.1 h).1, parse?_text⟩

/-! ## Parts -/

/-- The identifier with these parts: one that names a source is a display identifier, one that names
an id is a system identifier. -/
def ofParts? : (source field shortId id : Option Text) → Option Identifier
  | some source, some field, shortId, none => some (.display source field shortId)
  | none, field, none, some id => some (.system id field)
  | _, _, _, _ => none

/-- The identifier that has the parts of this one. -/
def fromParts? (i : Identifier) : Option Identifier := ofParts? i.source? i.field? i.shortId? i.id?

/-- The parts make up the identifier, unless it has the legacy form, whose kind is no part. -/
theorem fromParts?_eq_some_iff {i : Identifier} : i.fromParts? = some i ↔ i.isLegacy = false := by
  cases i with
  | display source field shortId => exact iff_of_true rfl rfl
  | system id field => exact iff_of_true rfl rfl
  | legacy kind id field => simp [fromParts?, ofParts?, source?, field?, shortId?, id?, isLegacy]

/-- A legacy identifier is longer than the system identifier with its parts. -/
theorem text_fromParts?_eq_iff {i : Identifier} :
    i.fromParts?.map Identifier.text = some i.text ↔ i.isLegacy = false := by
  refine ⟨fun h => ?_, fun h => by rw [fromParts?_eq_some_iff.2 h]; rfl⟩
  cases i with
  | display source field shortId => rfl
  | system id field => rfl
  | legacy kind id field =>
    have hlength : ((Identifier.system id (some field)).text).length =
        ((Identifier.legacy kind id field).text).length :=
      congrArg List.length (Option.some.inj h)
    have hpart : (optionalPart '_' (some field)).length ≤ field.length + 1 := by
      cases field with
      | nil => exact Nat.zero_le _
      | cons c field => exact Nat.le_refl _
    simp only [text, body, List.length_cons, List.length_append, List.length_nil] at hlength
    omega

end Identifier

open Identifier

/-- **Writing and parsing are inverse to each other.** A system identifier is parsed back from its
text, with its id and its field, if and only if these are words of the grammar; so is a display
identifier, with its source, its field and its short id, also where the source begins like a system
identifier. And where an identifier is found in a text, the text has there what its parts are
written as, unless it has the legacy form. -/
theorem text_inverse_parse? :
    (∀ (id : Text) (field : Option Text),
      parse? (Identifier.system id field).text = some (.system id field) ↔
        IsRun isIdChar id ∧ ∀ f ∈ field, IsRun isWord f) ∧
    (∀ (source field : Text) (shortId : Option Text),
      parse? (Identifier.display source field shortId).text = some (.display source field shortId) ↔
        IsRun isNameChar source ∧ IsRun isWord field ∧
          ∀ h ∈ shortId, IsRun Char.isAlphanum h ∧ 4 ≤ h.length ∧ h.length ≤ 6) ∧
    ∀ t : Text, ∀ o ∈ occurrences t,
      o.identifier.fromParts?.map Identifier.text = some ((t.take o.stop).drop o.start) ↔
        o.identifier.isLegacy = false := by
  refine ⟨fun id field => parse?_text_iff, fun source field shortId => parse?_text_iff,
    fun t o ho => ?_⟩
  rw [slice_of_mem_occurrences ho]
  exact text_fromParts?_eq_iff

/-- An id with hyphens and a field with underscores; a source that begins like a system identifier,
with a short id; an id that may not hold an underscore, one that is cut back in front of a lone
underscore, and a legacy identifier. -/
theorem text_inverse_parse?_ambiguous :
    let named : Identifier := .display "gv_a_b".toList "hp_2".toList (some "a1b2".toList)
    let cut : Identifier := .system "a-b".toList none
    let old : Identifier := .legacy "npc".toList "a1".toList "hp".toList
    let t := "@gv_a-b-_ @gv_npc_a1_hp-=".toList
    parse? "@gv_a-1_b_c".toList = some (.system "a-1".toList (some "b_c".toList)) ∧
      parse? "@gv_a_b.hp_2#a1b2".toList = some named ∧
      parse? "@gv_a_b".toList ≠ some (.system "a_b".toList none) ∧
      cut.fromParts?.map Identifier.text = some ((t.take 7).drop 0) ∧
      old.fromParts?.map Identifier.text ≠ some ((t.take 25).drop 10) := by
  intro named cut old t
  obtain ⟨hsystem, hdisplay, hfound⟩ := text_inverse_parse?
  have hcut : ⟨cut, 0⟩ ∈ occurrences t := by decide +kernel
  have hold : ⟨old, 10⟩ ∈ occurrences t := by decide +kernel
  refine ⟨(hsystem "a-1".toList (some "b_c".toList)).2 (by decide),
    (hdisplay "gv_a_b".toList "hp_2".toList (some "a1b2".toList)).2 (by decide), fun h => ?_,
    (hfound t _ hcut).2 rfl, fun h => ?_⟩
  · exact absurd ((hsystem "a_b".toList none).1 h) (by decide)
  · exact Bool.noConfusion ((hfound t _ hold).1 h)

end LiveText
