import LiveText.Forms
import LiveText.Proofs.Registry.Lookup

/-!
# Storing an identifier

In storage a display identifier is replaced by a system identifier, under the id that
`Snapshot.storedId` gives: that of the first record that the short id and the field find, whatever
its source, and where there is none, that of the first record of the source, whatever its field.
Looking the display identifier up goes by source and field first, so the two may come to different
records. `resolveText_systemFor` says when they do not.
-/

set_option autoImplicit false

namespace LiveText.Snapshot

/-- The id under which a display identifier is stored. -/
def storedId (s : Snapshot) (source field : Text) (shortId : Option Text) : Option Text :=
  ((shortId.bind fun h => s.findByShortId h (some field)).map Record.id).or (s.sourceIdFor source)

theorem systemFor_display (s : Snapshot) (source field : Text) (shortId : Option Text) :
    s.systemFor (.display source field shortId) =
      (s.storedId source field shortId).map fun id => (Identifier.system id (some field)).text := rfl

/-- An identifier is stored under the id of a record. -/
theorem exists_of_storedId {s : Snapshot} {source field : Text} {shortId : Option Text} {id : Text}
    (h : s.storedId source field shortId = some id) : ∃ r ∈ s.records, r.id = id := by
  rw [storedId, Option.or_eq_some_iff] at h
  rcases h with h | ⟨-, h⟩
  · obtain ⟨r, hr, hid⟩ := Option.map_eq_some_iff.1 h
    obtain ⟨w, -, hw⟩ := Option.bind_eq_some_iff.1 hr
    exact ⟨r, (of_findByShortId hw).1, hid⟩
  · rw [sourceIdFor] at h
    split at h
    · cases h
    · obtain ⟨r, hr, hid⟩ := Option.map_eq_some_iff.1 h
      rcases Option.or_eq_some_iff.1 hr with hr | ⟨-, hr⟩
      · exact ⟨r, List.mem_of_find?_eq_some hr, hid⟩
      · exact ⟨r, List.mem_of_find?_eq_some hr, hid⟩

/-- **When storing an identifier keeps its record.** The record must have the id under which the
identifier is stored; and where its field differs in case from the one that is written, no record of
this id may have the written field, and no earlier one a field that differs from it in case. -/
theorem resolveText_systemFor {s : Snapshot} (hkeys : (s.records.map Record.key).Nodup)
    (hids : ∀ r ∈ s.records, IsRun isIdChar r.id) {source field : Text} {shortId : Option Text}
    (hi : (Identifier.display source field shortId).WellFormed) {r : Record}
    (hr : s.resolve (.display source field shortId) = some r) {t : Text}
    (ht : s.systemFor (.display source field shortId) = some t) :
    s.resolveText t = some r ↔
      s.storedId source field shortId = some r.id ∧
        (r.field = field ∨
          (∀ q ∈ s.records, q.key ≠ (r.id, field)) ∧
            s.records.find? (fun q => q.id == r.id && Text.fold q.field == Text.fold field) =
              some r) := by
  rw [systemFor_display] at ht
  obtain ⟨id, hid, rfl⟩ := Option.map_eq_some_iff.1 ht
  obtain ⟨q, hq, rfl⟩ := exists_of_storedId hid
  have hwell : (Identifier.system q.id (some field)).WellFormed := by
    refine ⟨hids q hq, ?_⟩
    rintro f ⟨⟩
    exact hi.2.1
  rw [resolveText_system s hwell, hid]
  constructor
  · intro h
    have hrid := id_of_findByIdAndField h
    rw [hrid]
    refine ⟨rfl, ?_⟩
    rw [findByIdAndField_eq, Option.or_eq_some_iff] at h
    rcases h with h | ⟨hnone, h⟩
    · have hkey : r.key = (q.id, field) := by simpa using List.find?_some h
      exact .inl (congrArg Prod.snd hkey)
    · refine .inr ⟨fun p hp => ?_, h⟩
      simpa using List.find?_eq_none.1 hnone p hp
  · rintro ⟨hrid, h⟩
    rw [Option.some.inj hrid, findByIdAndField_eq, Option.or_eq_some_iff]
    rcases h with rfl | ⟨hne, hfind⟩
    · exact .inl (find?_key hkeys (mem_of_resolve_display hr))
    · refine .inr ⟨List.find?_eq_none.2 fun p hp => ?_, hfind⟩
      simpa using hne p hp

/-- The short id of an identifier may belong to a record of another source with the same field. The
identifier is stored under the id of that record, and no longer refers to its own. -/
theorem resolveText_systemFor_foreign :
    let foreign : Record := { id := "abcd1".toList, sourceName := "b".toList, field := "f".toList }
    let own : Record := { id := "zzzz9".toList, sourceName := "a".toList, field := "f".toList }
    let s := Snapshot.ofRecords [foreign, own]
    let i := Identifier.display "a".toList "f".toList (some "abcd".toList)
    s.resolve i = some own ∧ s.systemFor i = some "@gv_abcd1_f".toList ∧
      s.resolveText "@gv_abcd1_f".toList ≠ some own := by
  intro foreign own s i
  have hr : s.resolve i = some own := by
    simp only [i, resolve, recordsBySourceField_eq]
    decide +kernel
  have ht : s.systemFor i = some "@gv_abcd1_f".toList := by
    rw [systemFor_display]
    decide +kernel
  have hid : s.storedId "a".toList "f".toList (some "abcd".toList) ≠ some own.id := by
    decide +kernel
  refine ⟨hr, ht, fun h => hid ?_⟩
  exact ((resolveText_systemFor (by decide) (by decide) (by decide) hr ht).1 h).1

end LiveText.Snapshot
