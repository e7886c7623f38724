import LiveText.Proofs.Identifier.Shape
import LiveText.Registry.Lookup

/-!
# What lookups find

Every lookup in a snapshot finds one of its records, and one that answers the question. Where the
keys of the records differ, as they do in every registry, a record is found by its key.
-/

set_option autoImplicit false

namespace LiveText.Snapshot

/-! ## Sources and fields -/

theorem recordsBySourceField_eq (s : Snapshot) (mode : MatchMode) (source field : Text) :
    s.recordsBySourceField mode source field =
      if source.isEmpty || field.isEmpty then []
      else s.records.filter fun r => mode.recordKey r == mode.pairKey source field := by
  rw [recordsBySourceField, bySourceField_eq]

theorem mem_recordsBySourceField {s : Snapshot} {mode : MatchMode} {source field : Text}
    {r : Record} : r ∈ s.recordsBySourceField mode source field ↔
      (source ≠ [] ∧ field ≠ []) ∧ r ∈ s.records ∧ mode.recordKey r = mode.pairKey source field := by
  rw [recordsBySourceField_eq]
  by_cases h : source = [] ∨ field = []
  · have hempty : (source.isEmpty || field.isEmpty) = true := by simpa using h
    rw [if_pos hempty]
    exact iff_of_false List.not_mem_nil fun hr => h.elim hr.1.1 hr.1.2
  · have hempty : ¬(source.isEmpty || field.isEmpty) = true := by simpa using h
    rw [if_neg hempty, List.mem_filter, beq_iff_eq]
    exact ⟨fun hr => ⟨not_or.1 h, hr⟩, fun hr => hr.2⟩

/-! ## Short ids -/

/-- The record that a short id finds starts with it, and has the field if one is given. -/
theorem of_findByShortId {s : Snapshot} {shortId : Text} {field : Option Text} {r : Record}
    (h : s.findByShortId shortId field = some r) :
    r ∈ s.records ∧ startsWith shortId r = true ∧ ∀ f ∈ field, r.field = f := by
  rw [findByShortId] at h
  split at h
  · cases h
  · have hp := List.find?_some h
    rw [Bool.and_eq_true] at hp
    refine ⟨List.mem_of_find?_eq_some h, hp.1, fun f hf => ?_⟩
    have hfield := hp.2
    rw [Option.mem_def.1 hf] at hfield
    simpa using hfield

/-! ## Ids and fields -/

theorem findByIdAndField_eq (s : Snapshot) (id field : Text) :
    s.findByIdAndField id field =
      (s.records.find? fun r => r.key == (id, field)).or
        (s.records.find? fun r => r.id == id && Text.fold r.field == Text.fold field) := by
  rw [findByIdAndField, byKey_eq]

/-- What is found under an id has this id. -/
theorem id_of_findByIdAndField {s : Snapshot} {id field : Text} {r : Record}
    (h : s.findByIdAndField id field = some r) : r.id = id := by
  rw [findByIdAndField_eq, Option.or_eq_some_iff] at h
  rcases h with h | ⟨-, h⟩
  · have hkey : r.key = (id, field) := by simpa using List.find?_some h
    exact congrArg Prod.fst hkey
  · have hp := List.find?_some h
    simp only [Bool.and_eq_true, beq_iff_eq] at hp
    exact hp.1

/-- What is found under an id and a field is one of the records. -/
theorem mem_of_findByIdAndField {s : Snapshot} {id field : Text} {r : Record}
    (h : s.findByIdAndField id field = some r) : r ∈ s.records := by
  rw [findByIdAndField_eq, Option.or_eq_some_iff] at h
  rcases h with h | ⟨-, h⟩
  · exact List.mem_of_find?_eq_some h
  · exact List.mem_of_find?_eq_some h

/-- The key of a record finds a record with this key. -/
theorem exists_findByIdAndField {s : Snapshot} {r : Record} (hr : r ∈ s.records) :
    ∃ q ∈ s.records, q.key = r.key ∧ s.findByIdAndField r.id r.field = some q := by
  cases h : s.records.find? fun q => q.key == (r.id, r.field) with
  | none =>
    have hne := List.find?_eq_none.1 h r hr
    exact absurd (beq_self_eq_true r.key) hne
  | some q =>
    have hkey : q.key = (r.id, r.field) := by simpa using List.find?_some h
    refine ⟨q, List.mem_of_find?_eq_some h, hkey, ?_⟩
    rw [findByIdAndField_eq, h, Option.some_or]

/-- A record is found under its key if and only if there is one with this key. -/
theorem findByIdAndField_key_iff {s : Snapshot} {id field : Text} :
    (∃ q, s.findByIdAndField id field = some q ∧ q.key = (id, field)) ↔
      (id, field) ∈ s.records.map Record.key := by
  constructor
  · rintro ⟨q, hq, hkey⟩
    exact List.mem_map.2 ⟨q, mem_of_findByIdAndField hq, hkey⟩
  · intro h
    obtain ⟨r, hr, hkey⟩ := List.mem_map.1 h
    obtain ⟨rfl, rfl⟩ := Prod.mk.inj hkey
    obtain ⟨q, -, hq, hfind⟩ := exists_findByIdAndField hr
    exact ⟨q, hfind, hq⟩

theorem of_findById {s : Snapshot} {id : Text} {r : Record} (h : s.findById id = some r) :
    r ∈ s.records ∧ r.id = id := by
  rw [findById] at h
  split at h
  · cases h
  · rw [byId_eq] at h
    exact ⟨List.mem_of_find?_eq_some h, by simpa using List.find?_some h⟩

theorem mem_of_findBySystemId {s : Snapshot} {id : Text} {field : Option Text}
    {kind : Option RecordKind} {r : Record} (h : s.findBySystemId id field kind = some r) :
    r ∈ s.records := by
  unfold findBySystemId at h
  split at h
  · cases h
  · have hfound := (Option.filter_eq_some_iff.1 h).1
    split at hfound
    · exact (of_findById hfound).1
    · exact (of_findById hfound).1
    · exact mem_of_findByIdAndField hfound

theorem findBySystemId_of_ne_nil (s : Snapshot) {id field : Text} (hid : id ≠ [])
    (hfield : field ≠ []) :
    s.findBySystemId id (some field) = s.findByIdAndField id field := by
  have hempty : ¬id.isEmpty = true := by simpa using hid
  rw [findBySystemId, if_neg hempty]
  · cases s.findByIdAndField id field with
    | none => rfl
    | some r => rfl
  · exact hfield

/-- Where the keys of the records differ, every record is found by its key. -/
theorem find?_key {rs : List Record} (h : (rs.map Record.key).Nodup) {r : Record} (hr : r ∈ rs) :
    rs.find? (fun q => q.key == r.key) = some r := by
  induction rs with
  | nil => exact absurd hr List.not_mem_nil
  | cons q rs ih =>
    rw [List.map_cons, List.nodup_cons] at h
    rcases List.mem_cons.1 hr with rfl | hr
    · exact List.find?_cons_of_pos (by simp)
    · have hne : q.key ≠ r.key := fun he => h.1 (he ▸ List.mem_map_of_mem hr)
      rw [List.find?_cons_of_neg (by simpa using hne), ih h.2 hr]

/-! ## Identifiers -/

/-- The record that a display identifier refers to is one of the records. -/
theorem mem_of_resolve_display {s : Snapshot} {source field : Text} {shortId : Option Text}
    {r : Record} (h : s.resolve (.display source field shortId) = some r) : r ∈ s.records := by
  rw [resolve] at h
  simp only [Option.or_eq_some_iff] at h
  rcases h with h | ⟨-, h | ⟨-, h | ⟨-, h⟩⟩⟩
  · rw [Option.bind_eq_some_iff] at h
    obtain ⟨w, -, h⟩ := h
    split at h
    · cases h
    · exact (mem_recordsBySourceField.1 (List.mem_of_find?_eq_some h)).2.1
  · exact (mem_recordsBySourceField.1 (List.mem_of_mem_head? h)).2.1
  · exact (mem_recordsBySourceField.1 (List.mem_of_mem_head? h)).2.1
  · rw [Option.bind_eq_some_iff] at h
    obtain ⟨w, -, h⟩ := h
    exact (of_findByShortId h).1

/-- The record that an identifier refers to is one of the records. -/
theorem mem_of_resolve {s : Snapshot} {i : Identifier} {r : Record} (h : s.resolve i = some r) :
    r ∈ s.records := by
  cases i with
  | display source field shortId => exact mem_of_resolve_display h
  | system id field => exact mem_of_findBySystemId h
  | legacy kind id field => exact mem_of_findBySystemId h

/-- A system identifier that stands alone is looked up by its id and its field. -/
theorem resolveText_system (s : Snapshot) {id field : Text}
    (h : (Identifier.system id (some field)).WellFormed) :
    s.resolveText (Identifier.system id (some field)).text = s.findByIdAndField id field := by
  rw [resolveText, Identifier.parse?_text h, Option.bind_some, resolve,
    findBySystemId_of_ne_nil s h.1.1 (h.2 field rfl).1]

end LiveText.Snapshot
