import LiveText.Forms
import LiveText.Proofs.Identifier.Repeats
import LiveText.Proofs.Identifier.RunningOn
import LiveText.Proofs.Registry.Lookup
import LiveText.Proofs.Text.Fold

/-!
# From storage to the editor and back

A text in storage whose identifiers are keys of records is shown in display form, and comes back as
it was. Two things have to hold together. The lookups are inverse to each other: the short id that
an identifier is shown with leads back to the id that it was made from (`systemFor_shown`). And the
text in display form is taken apart where the stored one was: what stands behind an identifier and in
front of it does not matter (`replaces_shown`), and no gap is missing between the identifiers.

`Snapshot.ToldApart` says what a registry has to provide for this.
-/

set_option autoImplicit false

namespace LiveText

open Text Identifier

namespace Snapshot

/-- The records have names that can be written, and ids that can be told apart, whatever the case of
their letters, by their first `n` characters. -/
structure ToldApart (s : Snapshot) (n : Nat) : Prop where
  id : ∀ r ∈ s.records, IsRun isIdChar r.id
  length_le : ∀ r ∈ s.records, n ≤ r.id.length
  alphanum : ∀ r ∈ s.records, IsRun Char.isAlphanum (r.id.take n)
  unique : ∀ r ∈ s.records, ∀ q ∈ s.records,
    fold (r.id.take n) = fold (q.id.take n) → r.id = q.id
  sourceName : ∀ r ∈ s.records, IsRun isNameChar r.sourceName
  field : ∀ r ∈ s.records, IsRun isWord r.field

/-- The short id of a record is the start of its id. -/
theorem shortId_natCast (r : Record) (n : Nat) : r.shortId n = r.id.take n := by
  rw [Record.shortId, upTo, if_pos (Int.natCast_nonneg n), Int.toNat_natCast]

section
variable {s : Snapshot} {n : Nat} (hs : s.ToldApart n)
include hs

/-- A short id of `n` characters belongs to one id only. -/
theorem ToldApart.id_eq_of_startsWith {r q : Record} (hr : r ∈ s.records) (hq : q ∈ s.records)
    (h : startsWith (r.id.take n) q = true) : q.id = r.id := by
  have hascii : ∀ p ∈ s.records, ∀ c ∈ p.id, c.toNat < 128 :=
    fun p hp c hc => toNat_lt_of_isIdChar ((hs.id p hp).2 c hc)
  have htake := fold_take_of_prefix (fun c hc => hascii r hr c (List.mem_of_mem_take hc))
    (hascii q hq) (List.isPrefixOf_iff_prefix.1 h)
  rw [List.length_take, Nat.min_eq_left (hs.length_le r hr)] at htake
  exact hs.unique q hq r hr htake

/-- The short id that an identifier is shown with leads back to the id that it was made from,
whatever the name of the source. -/
theorem systemFor_shown {r : Record} (hr : r ∈ s.records) (source : Text) :
    s.systemFor (.display source r.field (some (r.id.take n))) =
      some (Identifier.system r.id (some r.field)).text := by
  have hne : ¬(r.id.take n).isEmpty = true := by
    rw [List.isEmpty_iff]
    exact (hs.alphanum r hr).1
  have hself : startsWith (r.id.take n) r = true :=
    List.isPrefixOf_iff_prefix.2 (prefix_fold_take n r.id)
  cases hfind : s.findByShortId (r.id.take n) (some r.field) with
  | none =>
    rw [findByShortId, if_neg hne] at hfind
    have := List.find?_eq_none.1 hfind r hr
    exact absurd (by simp [hself]) this
  | some q =>
    obtain ⟨hq, hstarts, -⟩ := of_findByShortId hfind
    rw [systemFor, Option.bind_some, hfind, Option.map_some, hs.id_eq_of_startsWith hr hq hstarts]
    rfl

/-- The display identifier that a record is shown as is well-formed. -/
theorem wellFormed_shown (hn : 4 ≤ n) (hn' : n ≤ 6) {r q : Record} (hr : r ∈ s.records)
    (hq : q ∈ s.records) {field : Text} (hfield : IsRun isWord field) :
    (Identifier.display q.sourceName field (some (r.id.take n))).WellFormed := by
  have hlength : (r.id.take n).length = n := by
    rw [List.length_take, Nat.min_eq_left (hs.length_le r hr)]
  refine ⟨hs.sourceName q hq, hfield, ?_⟩
  rintro w ⟨⟩
  exact ⟨hs.alphanum r hr, by omega, by omega⟩

/-- The display identifier that a key is shown as can take the place of the stored identifier. -/
theorem replaces_shown (hn : 4 ≤ n) (hn' : n ≤ 6) {r q : Record} (hr : r ∈ s.records)
    (hq : q ∈ s.records) :
    (Identifier.display q.sourceName r.field (some (r.id.take n))).Replaces
      (.system r.id (some r.field)) := by
  have hwell := wellFormed_shown hs hn hn' hr hq (hs.field r hr)
  exact ⟨fun t ht => standsBefore_display hwell (not_isWord_of_standsBefore rfl ht),
    (resembles_system (hs.id r hr) hwell).opens.symm⟩

end

/-! ## Texts -/

/-- What an identifier is shown as. -/
def shown (s : Snapshot) (n : Nat) : Identifier → Identifier
  | .system id (some field) =>
    match s.findByIdAndField id field with
    | some r => .display r.sourceName field (some (id.take n))
    | none => .system id (some field)
  | i => i

/-- The identifiers of a text are system identifiers, and each of them is the key of a record. -/
def HoldsKeys (s : Snapshot) (ts : List Token) : Prop :=
  ∀ i, .identifier i ∈ ts → ∃ r ∈ s.records, i = .system r.id (some r.field)

section
variable {s : Snapshot} {n : Nat} (hs : s.ToldApart n) {r : Record} (hr : r ∈ s.records)
include hs hr

theorem exists_shown :
    ∃ q ∈ s.records, s.shown n (.system r.id (some r.field)) =
        .display q.sourceName r.field (some (r.id.take n)) ∧
      s.displayFor n (.system r.id (some r.field)) =
        some (Identifier.display q.sourceName r.field (some (r.id.take n))).text := by
  obtain ⟨q, hq, hkey, hfind⟩ := exists_findByIdAndField hr
  have hid : q.id = r.id := congrArg Prod.fst hkey
  refine ⟨q, hq, ?_, ?_⟩
  · rw [shown, hfind]
  · rw [displayFor, displayForSystem, findBySystemId_of_ne_nil s (hs.id r hr).1 (hs.field r hr).1,
      hfind, Option.map_some, displayOf, shortId_natCast, hid]

/-- What a key is shown as takes its place, and comes back as the key. -/
theorem of_shown (hn : 4 ≤ n) (hn' : n ≤ 6) :
    (s.shown n (.system r.id (some r.field))).Replaces (.system r.id (some r.field)) ∧
      (s.shown n (.system r.id (some r.field))).isLegacy = false ∧
      s.systemFor (s.shown n (.system r.id (some r.field))) =
        some (Identifier.system r.id (some r.field)).text := by
  obtain ⟨q, hq, hshown, -⟩ := exists_shown hs hr
  rw [hshown]
  exact ⟨replaces_shown hs hn hn' hr hq, rfl, systemFor_shown hs hr q.sourceName⟩

end

section
variable {s : Snapshot} {n : Nat} (hs : s.ToldApart n)
include hs

/-- A text that holds keys is shown with each identifier in display form. -/
theorem toDisplayForm_eq {t : Text} (ht : s.HoldsKeys (tokens (separate t))) :
    s.toDisplayForm n t = written ((tokens (separate t)).map (Token.map (s.shown n))) := by
  have hcollapse : collapse t = t := by
    refine collapse_eq_self fun i hi => ?_
    obtain ⟨r, -, rfl⟩ := ht i (identifier_mem_tokens_separate hi)
    rfl
  rw [toDisplayForm, hcollapse, replaceIdentifiers, written_map]
  refine substitute_congr fun i hi => ?_
  obtain ⟨r, hr, rfl⟩ := ht i hi
  obtain ⟨q, -, hshown, hdisplay⟩ := exists_shown hs hr
  rw [hdisplay, hshown, Option.getD_some]

/-- **From storage to the editor and back**: a text whose identifiers are keys comes back as it was,
separated. -/
theorem toSystemForm_toDisplayForm (hn : 4 ≤ n) (hn' : n ≤ 6) {t : Text}
    (ht : s.HoldsKeys (tokens (separate t))) :
    s.toSystemForm (s.toDisplayForm n t) = separate t := by
  have hread := reading_tokens (separate t)
  have hback : ∀ i, .identifier i ∈ tokens (separate t) →
      (s.shown n i).Replaces i ∧ (s.shown n i).isLegacy = i.isLegacy ∧
        s.systemFor (s.shown n i) = some i.text := by
    intro i hi
    obtain ⟨r, hr, rfl⟩ := ht i hi
    exact of_shown hs hr hn hn'
  have hread' := hread.map (g := s.shown n) rfl fun i hi => (hback i hi).1
  have hgap' := (noGap_tokens_separate t).map hread fun i hi =>
    ⟨(hback i hi).1, (hback i hi).2.1⟩
  rw [toSystemForm, toDisplayForm_eq hs ht, separate_written hread' hgap', replaceIdentifiers,
    hread'.tokens_eq, substitute_map]
  calc substitute (fun i => (s.systemFor (s.shown n i)).getD (s.shown n i).text)
        (tokens (separate t))
    _ = substitute Identifier.text (tokens (separate t)) := by
        refine substitute_congr fun i hi => ?_
        rw [(hback i hi).2.2, Option.getD_some]
    _ = separate t := by rw [substitute_text, written_tokens]

end

/-- Two keys without a gap, shown under one source name and with short ids that end in the middle of
an id and of a text. -/
theorem toSystemForm_toDisplayForm_pair :
    let hp : Record := { id := "a1b2-x".toList, sourceName := "npc".toList, field := "hp".toList }
    let mp : Record := { id := "C3D4".toList, sourceName := "npc".toList, field := "mp".toList }
    let s := Snapshot.ofRecords [hp, mp]
    let t := "HP: @gv_a1b2-x_hp@gv_C3D4_mp#1.".toList
    s.ToldApart 4 ∧ s.HoldsKeys (tokens (separate t)) ∧
      s.toSystemForm (s.toDisplayForm 4 t) = "HP: @gv_a1b2-x_hp @gv_C3D4_mp#1.".toList := by
  intro hp mp s t
  have hs : s.ToldApart 4 := ⟨by decide, by decide, by decide, by decide, by decide, by decide⟩
  have htokens : tokens (separate t) =
      "HP: ".toList.map .char ++ .identifier (.system hp.id (some hp.field)) :: .char ' ' ::
        .identifier (.system mp.id (some mp.field)) :: "#1.".toList.map .char := by
    decide +kernel
  have ht : s.HoldsKeys (tokens (separate t)) := by
    rw [htokens]
    intro i hi
    simp only [List.mem_append, List.mem_cons, List.mem_map, Token.identifier.injEq, reduceCtorEq,
      and_false, exists_false, false_or, or_false] at hi
    rcases hi with rfl | rfl
    · exact ⟨hp, List.mem_cons_self, rfl⟩
    · exact ⟨mp, List.mem_cons_of_mem _ List.mem_cons_self, rfl⟩
  refine ⟨hs, ht, ?_⟩
  have hseparate : separate t = "HP: @gv_a1b2-x_hp @gv_C3D4_mp#1.".toList := by decide +kernel
  rw [← hseparate]
  exact toSystemForm_toDisplayForm hs (by decide) (by decide) ht

end Snapshot
end LiveText
