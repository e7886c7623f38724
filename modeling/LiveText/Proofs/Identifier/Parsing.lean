import LiveText.Proofs.Identifier.Appending
import LiveText.Proofs.Identifier.Occurrences

/-!
# Parsing one identifier and scanning a text for identifiers

A scan takes an identifier where it stands in a text, with regard to what stands on both sides of it;
parsing takes the whole of a text, less the blanks around it. The two agree because a well-formed
identifier stands before the end of a text whatever its form is (`Identifier.standsBefore_nil`): what
is parsed is what the scan finds in the text alone (`parse?_eq_some_iff`), and what the scan finds
between other characters is parsed from its own characters (`parse?_of_mem_occurrences`).

So a variable tag, which keeps nothing but the characters of an identifier, stands for the identifier
that was found in the text (**`parse?_iff_occurrences`**).
-/

set_option autoImplicit false

namespace LiveText

open Text Identifier

/-! ## Texts that consist of one identifier -/

/-- What is parsed are the texts of well-formed identifiers, with blanks around them. -/
theorem Identifier.parse?_eq_some_iff {t : Text} {i : Identifier} :
    parse? t = some i ↔ i.WellFormed ∧ trim t = i.text := by
  constructor
  · intro h
    rw [parse?] at h
    split at h
    · next j hread =>
      cases h
      exact ⟨wellFormed_of_read hread, (read_append hread).trans (List.append_nil _)⟩
    · cases h
  · rintro ⟨hi, ht⟩
    have hread := standsBefore_nil hi
    rw [StandsBefore, List.append_nil] at hread
    rw [parse?, ht, hread]

/-- In the text of an identifier the scan finds this identifier and nothing else. -/
theorem occurrences_text {i : Identifier} (hi : i.WellFormed) : occurrences i.text = [⟨i, 0⟩] := by
  rw [occurrences, tokens_text hi]
  rfl

/-- An identifier that is found in a text is well-formed. -/
theorem wellFormed_of_mem_occurrences {t : Text} {o : Occurrence} (ho : o ∈ occurrences t) :
    o.identifier.WellFormed := by
  obtain ⟨us, vs, hts, -, -⟩ := exists_split_of_mem_occurrences ho
  exact (reading_tokens t).wellFormed (hts ▸ List.mem_append_right us List.mem_cons_self)

/-- An identifier that covers a text makes up the text. -/
theorem eq_text_of_covers {t : Text} {o : Occurrence} (ho : o ∈ occurrences t) (hstart : o.start = 0)
    (hstop : o.stop = t.length) : t = o.identifier.text := by
  obtain ⟨us, vs, -, hlength, ht⟩ := exists_split_of_mem_occurrences ho
  have hus : written us = [] := List.length_eq_zero_iff.1 (hlength.symm.trans hstart)
  rw [hus, List.nil_append] at ht
  have htotal : t.length = o.identifier.text.length + (written vs).length :=
    (congrArg List.length ht).trans List.length_append
  have hvs : written vs = [] := by
    rw [← List.length_eq_zero_iff]
    rw [Occurrence.stop, hstart] at hstop
    omega
  rwa [hvs, List.append_nil] at ht

/-! ## Parsing and scanning -/

/-- **What the scan finds is parsed** from its own characters. -/
theorem parse?_of_mem_occurrences {t : Text} {o : Occurrence} (ho : o ∈ occurrences t) :
    parse? o.identifier.text = some o.identifier :=
  parse?_text (wellFormed_of_mem_occurrences ho)

/-- **Parsing and scanning agree**: a text is parsed as an identifier if and only if the scan of the
text, less the blanks around it, finds this identifier alone and it covers the whole of it; and an
identifier that is found between other characters is parsed with the same parts. -/
theorem parse?_iff_occurrences :
    (∀ (t : Text) (i : Identifier), parse? t = some i ↔
      ∃ o, occurrences (trim t) = [o] ∧ o.identifier = i ∧ o.start = 0 ∧
        o.stop = (trim t).length) ∧
    ∀ t, ∀ o ∈ occurrences t, parse? o.identifier.text = some o.identifier := by
  refine ⟨fun t i => ?_, fun t o => parse?_of_mem_occurrences⟩
  rw [parse?_eq_some_iff]
  constructor
  · rintro ⟨hi, ht⟩
    rw [ht]
    exact ⟨⟨i, 0⟩, occurrences_text hi, rfl, rfl, Nat.zero_add _⟩
  · rintro ⟨o, hos, rfl, hstart, hstop⟩
    have ho : o ∈ occurrences (trim t) := hos ▸ List.mem_singleton_self o
    exact ⟨wellFormed_of_mem_occurrences ho, eq_text_of_covers ho hstart hstop⟩

/-- An id that is cut back in front of a lone underscore, a short id that is too long, and a legacy
identifier; and a token with blanks around it, whose id is a system identifier in front of a dot. -/
theorem parse?_iff_occurrences_forms :
    let t := "@gv_a-b-_ @gv_x.hp#abcdefg @gv_npc_a1_hp-=".toList
    let cut : Identifier := .system "a-b".toList none
    let named : Identifier := .display "gv_x".toList "hp".toList none
    let old : Identifier := .legacy "npc".toList "a1".toList "hp".toList
    occurrences t = [⟨cut, 0⟩, ⟨named, 10⟩, ⟨old, 27⟩] ∧
      parse? cut.text = some cut ∧ parse? named.text = some named ∧ parse? old.text = some old ∧
      parse? "\t@gv_x.hp#abcd\n".toList =
        some (.display "gv_x".toList "hp".toList (some "abcd".toList)) := by
  intro t cut named old
  have hfound : occurrences t = [⟨cut, 0⟩, ⟨named, 10⟩, ⟨old, 27⟩] := by decide +kernel
  have hparsed : ∀ o ∈ occurrences t, parse? o.identifier.text = some o.identifier :=
    parse?_iff_occurrences.2 t
  rw [hfound] at hparsed
  refine ⟨hfound, hparsed ⟨cut, 0⟩ (by simp), hparsed ⟨named, 10⟩ (by simp),
    hparsed ⟨old, 27⟩ (by simp), (parse?_iff_occurrences.1 _ _).2 ?_⟩
  exact ⟨⟨.display "gv_x".toList "hp".toList (some "abcd".toList), 0⟩, by decide +kernel, rfl, rfl,
    by decide +kernel⟩

end LiveText
