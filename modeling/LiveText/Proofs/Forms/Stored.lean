import LiveText.Proofs.Forms.Storing
import LiveText.Proofs.Identifier.RunningOn
import LiveText.Resolution

/-!
# Reading a stored text

A text is stored with its display identifiers replaced by system identifiers. Whether they are found
again in the stored text depends on what stands behind each of them: a system identifier may run into
a text that a display identifier does not run into. `identifiers_toSystemForm_iff` is the exact
condition. A registry whose ids have hyphens fulfils it for every text
(`identifiers_toSystemForm_of_hyphen`).
-/

set_option autoImplicit false

namespace LiveText.Snapshot

open Text Identifier

/-- What an identifier is stored as. -/
def stored (s : Snapshot) : Identifier → Identifier
  | .display source field shortId =>
    ((s.storedId source field shortId).map fun id => .system id (some field)).getD
      (.display source field shortId)
  | i => i

section
variable {s : Snapshot} {source field id : Text} {shortId : Option Text}

theorem stored_display (h : s.storedId source field shortId = some id) :
    s.stored (.display source field shortId) = .system id (some field) := by
  rw [stored, h]
  rfl

/-- An identifier is stored as it is, unless it is a display identifier for which there is an id. -/
theorem stored_eq_self_or (s : Snapshot) (i : Identifier) :
    s.stored i = i ∨ ∃ source field shortId id, i = .display source field shortId ∧
      s.storedId source field shortId = some id := by
  cases i with
  | display source field shortId =>
    cases h : s.storedId source field shortId with
    | none =>
      rw [stored, h]
      exact .inl rfl
    | some id => exact .inr ⟨source, field, shortId, id, rfl, h⟩
  | system => exact .inl rfl
  | legacy => exact .inl rfl

theorem text_stored (s : Snapshot) (i : Identifier) :
    (s.stored i).text = (s.systemFor i).getD i.text := by
  cases i with
  | display source field shortId =>
    rw [systemFor_display, stored]
    cases s.storedId source field shortId <;> rfl
  | system => rfl
  | legacy => rfl

/-- A text is stored with each of its identifiers as it is stored. -/
theorem toSystemForm_eq (s : Snapshot) (t : Text) :
    s.toSystemForm t = written ((tokens (separate t)).map (Token.map s.stored)) := by
  rw [toSystemForm, replaceIdentifiers, written_map]
  exact substitute_congr fun i _ => (text_stored s i).symm

end

section
variable {s : Snapshot} (hids : ∀ r ∈ s.records, IsRun isIdChar r.id)
include hids

theorem isRun_of_storedId {source field id : Text} {shortId : Option Text}
    (h : s.storedId source field shortId = some id) : IsRun isIdChar id := by
  obtain ⟨r, hr, rfl⟩ := exists_of_storedId h
  exact hids r hr

theorem stored_resembles {i : Identifier} (hi : i.WellFormed) : (s.stored i).Resembles i := by
  rcases s.stored_eq_self_or i with h | ⟨source, field, shortId, id, rfl, h⟩
  · rw [h]
    exact .refl i
  · rw [stored_display h]
    exact resembles_system (isRun_of_storedId hids h) hi

/-- A stored identifier stands where the identifier stood, unless it runs on. -/
theorem standsBefore_stored_iff {i : Identifier} {t : Text} (hi : StandsBefore i t) :
    StandsBefore (s.stored i) t ↔
      ∀ source field shortId id, i = .display source field shortId →
        s.storedId source field shortId = some id → ¬RunsOn id field t := by
  rcases s.stored_eq_self_or i with h | ⟨source, field, shortId, id, rfl, h⟩
  · rw [h]
    refine iff_of_true hi ?_
    rintro source field shortId id rfl hid
    rw [stored_display hid] at h
    cases h
  · have hwell : (Identifier.system id (some field)).WellFormed := by
      refine ⟨isRun_of_storedId hids h, ?_⟩
      rintro f ⟨⟩
      exact (wellFormed_of_read hi).2.1
    rw [stored_display h,
      standsBefore_system_iff hwell (not_isWord_of_standsBefore rfl hi)]
    constructor
    · rintro hrun _ _ _ _ ⟨⟩ hid
      rw [h] at hid
      cases hid
      exact hrun
    · exact fun hrun => hrun source field shortId id rfl h

/-- A stored text holds the identifiers that were stored if and only if each of them stands where it is
put. -/
theorem identifiers_toSystemForm_iff_stands (t : Text) :
    identifiers (s.toSystemForm t) = (identifiers t).map s.stored ↔
      ∀ o ∈ separatedOccurrences t,
        StandsBefore (s.stored o.identifier) ((separate t).drop o.stop) := by
  have hread := reading_tokens (separate t)
  rw [identifiers_eq, identifiers_eq, toSystemForm_eq,
    identifiersOf_replaced_iff hread (noGap_tokens_separate t)
      fun i hi => stored_resembles hids (hread.wellFormed hi),
    fits_tokens_iff, separatedOccurrences]

/-- Under ids with hyphens every stored text holds the identifiers that were stored. -/
theorem identifiers_toSystemForm_of_hyphen (hhyphen : ∀ r ∈ s.records, '-' ∈ r.id) (t : Text) :
    identifiers (s.toSystemForm t) = (identifiers t).map s.stored := by
  refine (identifiers_toSystemForm_iff_stands hids t).2 fun o ho => ?_
  refine (standsBefore_stored_iff hids (standsBefore_of_mem_occurrences o ho)).2 ?_
  intro source field shortId id _ hid hrun
  obtain ⟨r, hr, rfl⟩ := exists_of_storedId hid
  exact hrun.hyphen_notMem (hhyphen r hr)

/-- **When a stored text holds the identifiers that were stored**: none of the system identifiers that
display identifiers were replaced by may run into the text behind it. -/
theorem identifiers_toSystemForm_iff (t : Text) :
    identifiers (s.toSystemForm t) = (identifiers t).map s.stored ↔
      ∀ o ∈ separatedOccurrences t, ∀ source field shortId id,
        o.identifier = .display source field shortId →
          s.storedId source field shortId = some id →
            ¬RunsOn id field ((separate t).drop o.stop) := by
  rw [identifiers_toSystemForm_iff_stands hids]
  exact forall₂_congr fun o ho =>
    standsBefore_stored_iff hids (standsBefore_of_mem_occurrences o ho)

end

/-- A dot and a word behind the identifier, or the mark that closes a legacy identifier: what is found
in the stored text is another identifier. -/
theorem identifiers_toSystemForm_runsOn :
    let npc (id : String) (field : String) : Snapshot := Snapshot.ofRecords
      [{ id := id.toList, sourceName := "npc".toList, field := field.toList }]
    let dot := "@npc.name.then".toList
    let mark := "@npc.na_me-=".toList
    identifiers ((npc "abcd1" "name").toSystemForm dot) ≠
        (identifiers dot).map (npc "abcd1" "name").stored ∧
      identifiers ((npc "abcd" "na_me").toSystemForm mark) ≠
        (identifiers mark).map (npc "abcd" "na_me").stored := by
  intro npc dot mark
  constructor
  · intro h
    have ho : ⟨.display "npc".toList "name".toList none, 0⟩ ∈ separatedOccurrences dot := by
      decide +kernel
    refine (identifiers_toSystemForm_iff (by decide) dot).1 h _ ho "npc".toList "name".toList none
      "abcd1".toList rfl (by decide +kernel) ?_
    have hdrop : (separate dot).drop 9 = [] ++ '.' :: 't' :: "hen".toList := by decide +kernel
    exact hdrop ▸ .display (by decide) (by simp) (by decide)
  · intro h
    have ho : ⟨.display "npc".toList "na_me".toList none, 0⟩ ∈ separatedOccurrences mark := by
      decide +kernel
    refine (identifiers_toSystemForm_iff (by decide) mark).1 h _ ho "npc".toList "na_me".toList none
      "abcd".toList rfl (by decide +kernel) ?_
    have hdrop : (separate mark).drop 10 = "-=".toList := by decide +kernel
    have hid : IsRun isIdChar "na".toList := by decide
    have hfield : IsRun isWord "me".toList := by decide
    exact hdrop ▸ .legacy (r := []) (by decide) hid hfield (by decide)

end LiveText.Snapshot
