import LiveText.Forms
import LiveText.Proofs.Registry.Lookup

/-!
# Refreshing an identifier

A display identifier with an outdated source name is refreshed: the name is replaced by that of the
record which `Snapshot.refreshingRecord` finds. With a short id this is the first record of the short
id, whatever its source; without one it is the record that the source and the field find. Looking the
identifier up goes by source and field first, so the two may come to different records.

## What is here

* `resolve_refreshed`: a refreshed identifier refers to the record that it was refreshed by, if this
  record has the field that is written. `resolve_refreshed_of_ne` says what is left of the lookup
  where it has not.
* **`resolveText_displayFor_iff`**: when refreshing keeps the record of an identifier, and leaves the
  identifiers of custom records alone.
-/

set_option autoImplicit false

namespace LiveText.Snapshot

/-! ## What an identifier is shown as -/

/-- The record by whose source name a display identifier is refreshed. -/
def refreshingRecord (s : Snapshot) (source field : Text) : Option Text → Option Record
  | some shortId => (s.findByShortId shortId (some field)).or (s.findByShortId shortId none)
  | none => s.findBySourceField source field

/-- What a record makes of the source name of an identifier that it refreshes. -/
theorem renamedSource_eq (s : Snapshot) (source field : Text) (shortId : Option Text) :
    s.renamedSource source field shortId =
      (s.refreshingRecord source field shortId).bind fun q =>
        if q.sourceName = source ∨ q.kind = .custom then none else some q.sourceName := by
  cases shortId with
  | none =>
    unfold renamedSource
    dsimp only [refreshingRecord]
    cases s.findBySourceField source field with
    | none => rfl
    | some q => rfl
  | some w =>
    unfold renamedSource
    dsimp only [refreshingRecord]
    cases (s.findByShortId w (some field)).or (s.findByShortId w none) with
    | none => rfl
    | some q => rfl

/-- The identifier that an identifier is shown as, unless it is up to date. -/
def refreshed? (s : Snapshot) (n : Int) : Identifier → Option Identifier
  | .system id none =>
    (s.findById id).map fun r => .display r.sourceName r.field (some (r.shortId n))
  | .system id (some field) | .legacy _ id field =>
    (s.findBySystemId id (some field)).map fun r => .display r.sourceName field (some (r.shortId n))
  | .display source field shortId =>
    (s.renamedSource source field shortId).map fun name => .display name field shortId

section
variable {s : Snapshot} {n : Int} {i j : Identifier}

theorem displayFor_eq (s : Snapshot) (n : Int) (i : Identifier) :
    s.displayFor n i = (s.refreshed? n i).map Identifier.text := by
  cases i with
  | display source field shortId => rw [displayFor, refreshed?, Option.map_map]; rfl
  | legacy kind id field => rw [displayFor, displayForSystem, refreshed?, Option.map_map]; rfl
  | system id field =>
    cases field with
    | none => rw [displayFor, refreshed?, Option.map_map]; rfl
    | some field => rw [displayFor, displayForSystem, refreshed?, Option.map_map]; rfl

theorem refreshed?_display_eq_some_iff {source field : Text} {shortId : Option Text} :
    s.refreshed? n (.display source field shortId) = some j ↔
      ∃ q, s.refreshingRecord source field shortId = some q ∧ q.sourceName ≠ source ∧
        q.kind ≠ .custom ∧ j = .display q.sourceName field shortId := by
  rw [refreshed?, renamedSource_eq]
  simp only [Option.map_eq_some_iff, Option.bind_eq_some_iff, Option.ite_none_left_eq_some,
    Option.some.injEq, not_or]
  constructor
  · rintro ⟨_, ⟨q, hq, ⟨hsource, hkind⟩, rfl⟩, rfl⟩
    exact ⟨q, hq, hsource, hkind, rfl⟩
  · rintro ⟨q, hq, hsource, hkind, rfl⟩
    exact ⟨_, ⟨q, hq, ⟨hsource, hkind⟩, rfl⟩, rfl⟩

/-- What an identifier is shown as. One that names a record id is shown under the name of the record's
source, with the field of the record or its own, and with the short id of the record; one that names a
source is shown under the name of the source of the record that it is refreshed by. -/
theorem refreshed?_cases (h : s.refreshed? n i = some j) :
    (i.isDisplay = false ∧ ∃ r ∈ s.records, ∃ field, (field = r.field ∨ i.field? = some field) ∧
      j = .display r.sourceName field (some (r.shortId n))) ∨
    ∃ source field shortId, i = .display source field shortId ∧
      ∃ q, s.refreshingRecord source field shortId = some q ∧ q.sourceName ≠ source ∧
        q.kind ≠ .custom ∧ j = .display q.sourceName field shortId := by
  have system : ∀ {id field : Text},
      (s.findBySystemId id (some field)).map
        (fun r => Identifier.display r.sourceName field (some (r.shortId n))) = some j →
      ∃ r ∈ s.records, j = .display r.sourceName field (some (r.shortId n)) := by
    intro id field h
    obtain ⟨r, hr, rfl⟩ := Option.map_eq_some_iff.1 h
    exact ⟨r, mem_of_findBySystemId hr, rfl⟩
  cases i with
  | display source field shortId =>
    exact .inr ⟨source, field, shortId, rfl, refreshed?_display_eq_some_iff.1 h⟩
  | legacy kind id field =>
    obtain ⟨r, hr, rfl⟩ := system h
    exact .inl ⟨rfl, r, hr, field, .inr rfl, rfl⟩
  | system id field =>
    cases field with
    | none =>
      obtain ⟨r, hr, rfl⟩ := Option.map_eq_some_iff.1 h
      exact .inl ⟨rfl, r, (of_findById hr).1, r.field, .inl rfl, rfl⟩
    | some field =>
      obtain ⟨r, hr, rfl⟩ := system h
      exact .inl ⟨rfl, r, hr, field, .inr rfl, rfl⟩

theorem isLegacy_refreshed? (h : s.refreshed? n i = some j) : j.isLegacy = false := by
  rcases refreshed?_cases h with ⟨-, _, -, _, -, rfl⟩ | ⟨_, _, _, -, _, -, -, -, rfl⟩
  · rfl
  · rfl

/-- A display identifier is refreshed unless the record has its source name already, or is a custom
one. -/
theorem displayFor_display_eq_some_iff {source field : Text} {shortId : Option Text} {t : Text} :
    s.displayFor n (.display source field shortId) = some t ↔
      ∃ q, s.refreshingRecord source field shortId = some q ∧ q.sourceName ≠ source ∧
        q.kind ≠ .custom ∧ t = (Identifier.display q.sourceName field shortId).text := by
  rw [displayFor_eq, Option.map_eq_some_iff]
  simp only [refreshed?_display_eq_some_iff]
  constructor
  · rintro ⟨_, ⟨q, hq, hsource, hkind, rfl⟩, rfl⟩
    exact ⟨q, hq, hsource, hkind, rfl⟩
  · rintro ⟨q, hq, hsource, hkind, rfl⟩
    exact ⟨_, ⟨q, hq, hsource, hkind, rfl⟩, rfl⟩

end

/-! ## What a refreshed identifier refers to -/

/-- The first element of a kind is the first one of every narrower kind that it is of. -/
theorem find?_of_imp {α : Type} {p p' : α → Bool} {xs : List α} {a : α}
    (h : xs.find? p = some a) (ha : p' a = true) (himp : ∀ x, p' x = true → p x = true) :
    xs.find? p' = some a := by
  obtain ⟨-, us, vs, rfl, hus⟩ := List.find?_eq_some_iff_append.1 h
  refine List.find?_eq_some_iff_append.2 ⟨ha, us, vs, rfl, fun x hx => ?_⟩
  have hx := hus x hx
  rw [Bool.not_eq_true'] at hx ⊢
  exact Bool.eq_false_iff.2 fun hp' => Bool.eq_false_iff.1 hx (himp x hp')

section
variable {s : Snapshot} {source field : Text} {shortId : Option Text} {q : Record}

theorem findBySourceField_eq_some (h : s.findBySourceField source field = some q) :
    source ≠ [] ∧ field ≠ [] ∧ ∃ mode : MatchMode,
      s.records.find? (fun r => mode.recordKey r == mode.pairKey source field) = some q := by
  rw [findBySourceField] at h
  obtain ⟨mode, -, hmode⟩ := List.exists_of_findSome?_eq_some h
  obtain ⟨hne, -⟩ := mem_recordsBySourceField.1 (List.mem_of_mem_head? hmode)
  refine ⟨hne.1, hne.2, mode, ?_⟩
  rwa [recordsBySourceField_eq, if_neg (by simpa using hne), List.head?_filter] at hmode

/-- The first exact record of a source and a field, where both are names. -/
theorem head?_exact (hsource : source ≠ []) (hfield : field ≠ []) :
    (s.recordsBySourceField .exact source field).head? =
      s.records.find? fun r => MatchMode.exact.recordKey r == MatchMode.exact.pairKey source field := by
  rw [recordsBySourceField_eq, if_neg (by simp [hsource, hfield]), List.head?_filter]

theorem recordKey_exact_iff {r : Record} :
    (MatchMode.exact.recordKey r == MatchMode.exact.pairKey source field) = true ↔
      r.sourceName = source ∧ r.field = field := by
  rw [beq_iff_eq]
  exact Prod.ext_iff

/-- A record that a short id finds for a field has the field, if any record of the short id has. -/
theorem findByShortId_of_field {w : Text} (h : s.refreshingRecord source field (some w) = some q)
    (hfield : q.field = field) : s.findByShortId w (some field) = some q := by
  rw [refreshingRecord, Option.or_eq_some_iff] at h
  rcases h with h | ⟨hnone, h⟩
  · exact h
  · obtain ⟨hq, hstarts, -⟩ := of_findByShortId h
    have hne : ¬w.isEmpty = true := by
      intro he
      rw [findByShortId, if_pos he] at h
      cases h
    rw [findByShortId, if_neg hne] at hnone
    exact absurd (by simp [hstarts, hfield]) (List.find?_eq_none.1 hnone q hq)

theorem mem_of_refreshingRecord (h : s.refreshingRecord source field shortId = some q) :
    q ∈ s.records := by
  cases shortId with
  | none =>
    obtain ⟨-, -, mode, hfind⟩ := findBySourceField_eq_some h
    exact List.mem_of_find?_eq_some hfind
  | some w =>
    rw [refreshingRecord, Option.or_eq_some_iff] at h
    rcases h with h | ⟨-, h⟩
    · exact (of_findByShortId h).1
    · exact (of_findByShortId h).1

/-- **A refreshed identifier refers to the record that it was refreshed by**, if this record has the
field that is written. -/
theorem resolve_refreshed (hsource : q.sourceName ≠ []) (hfield : field ≠ [])
    (h : s.refreshingRecord source field shortId = some q) (hq : q.field = field) :
    s.resolve (.display q.sourceName field shortId) = some q := by
  have hkey := recordKey_exact_iff.2 ⟨rfl, hq⟩
  cases shortId with
  | none =>
    obtain ⟨-, -, mode, hfind⟩ := findBySourceField_eq_some h
    have hmode : mode.recordKey q = mode.pairKey source field := by simpa using List.find?_some hfind
    have hhead := find?_of_imp hfind hkey fun x hx => by
      obtain ⟨hxsource, hxfield⟩ := recordKey_exact_iff.1 hx
      rw [beq_iff_eq, ← hmode, MatchMode.recordKey, MatchMode.recordKey, hxsource, hxfield, hq]
    rw [resolve, head?_exact hsource hfield, hhead]
    rfl
  | some w =>
    have hshort := findByShortId_of_field h hq
    have hne : ¬w.isEmpty = true := by
      intro he
      rw [findByShortId, if_pos he] at hshort
      cases hshort
    have hstarts := (of_findByShortId hshort).2.1
    rw [findByShortId, if_neg hne] at hshort
    have hexact : (s.recordsBySourceField .exact q.sourceName field).find? (startsWith w) =
        some q := by
      rw [recordsBySourceField_eq, if_neg (by simp [hsource, hfield]), List.find?_filter]
      refine find?_of_imp hshort (decide_eq_true ⟨hkey, hstarts⟩) fun x hx => ?_
      obtain ⟨hxkey, hxstarts⟩ := of_decide_eq_true hx
      simp [hxstarts, (recordKey_exact_iff.1 hxkey).2]
    rw [resolve, Option.bind_some, if_neg hne, hexact]
    rfl

/-- A short id whose records do not have the field takes no part in the lookup. -/
theorem resolve_refreshed_of_ne (h : s.refreshingRecord source field shortId = some q)
    (hq : q.field ≠ field) (name : Text) :
    s.resolve (.display name field shortId) = s.resolve (.display name field none) := by
  cases shortId with
  | none => rfl
  | some w =>
    have hnone : s.findByShortId w (some field) = none := by
      rw [refreshingRecord, Option.or_eq_some_iff] at h
      rcases h with h | ⟨hnone, -⟩
      · exact absurd ((of_findByShortId h).2.2 field rfl) hq
      · exact hnone
    have hexact : (if w.isEmpty then none
        else (s.recordsBySourceField .exact name field).find? (startsWith w)) = none := by
      split
      · rfl
      · next hne =>
        rw [findByShortId, if_neg hne] at hnone
        refine List.find?_eq_none.2 fun x hx hstarts => ?_
        obtain ⟨-, hx, hkey⟩ := mem_recordsBySourceField.1 hx
        have hxfield : x.field = field := congrArg Prod.snd hkey
        exact absurd (by simp [hstarts, hxfield]) (List.find?_eq_none.1 hnone x hx)
    rw [resolve, resolve, Option.bind_some, hexact, Option.bind_some, hnone]
    rfl

end

/-! ## When the record is kept -/

/-- **When refreshing an identifier keeps its record**, and leaves it as it is if the record is a
custom one. A record with another source name by which it is refreshed, and which is not custom
itself, must be the record of the identifier and have the written field; or it does not have this
field, and its source name with the field leads to the record of the identifier. -/
theorem resolveText_displayFor_iff {s : Snapshot}
    (hnames : ∀ q ∈ s.records, IsRun isNameChar q.sourceName) {source field : Text}
    {shortId : Option Text} (hi : (Identifier.display source field shortId).WellFormed) {r : Record}
    (n : Int) :
    (∀ t, s.displayFor n (.display source field shortId) = some t →
        s.resolveText t = some r ∧ r.kind ≠ .custom) ↔
      ∀ q, s.refreshingRecord source field shortId = some q → q.sourceName ≠ source →
        q.kind ≠ .custom →
          q = r ∧ r.field = field ∨
            q.field ≠ field ∧ s.resolve (.display q.sourceName field none) = some r ∧
              r.kind ≠ .custom := by
  obtain ⟨-, hfield, hshort⟩ := hi
  -- the refreshed identifier is read back, and looked up by the name of the record
  have hread : ∀ q, s.refreshingRecord source field shortId = some q →
      s.resolveText (Identifier.display q.sourceName field shortId).text =
        s.resolve (.display q.sourceName field shortId) := by
    intro q hq
    have hwell : (Identifier.display q.sourceName field shortId).WellFormed :=
      ⟨hnames q (mem_of_refreshingRecord hq), hfield, hshort⟩
    rw [resolveText, Identifier.parse?_text hwell, Option.bind_some]
  have hkept : ∀ q, s.refreshingRecord source field shortId = some q → q.kind ≠ .custom →
      ((s.resolve (.display q.sourceName field shortId) = some r ∧ r.kind ≠ .custom) ↔
        (q = r ∧ r.field = field ∨
          q.field ≠ field ∧ s.resolve (.display q.sourceName field none) = some r ∧
            r.kind ≠ .custom)) := by
    intro q hq hkind
    by_cases hqfield : q.field = field
    · have hsource := (hnames q (mem_of_refreshingRecord hq)).1
      rw [resolve_refreshed hsource hfield.1 hq hqfield, Option.some.injEq]
      constructor
      · rintro ⟨rfl, -⟩
        exact .inl ⟨rfl, hqfield⟩
      · rintro (⟨rfl, -⟩ | ⟨hne, -⟩)
        · exact ⟨rfl, hkind⟩
        · exact absurd hqfield hne
    · rw [resolve_refreshed_of_ne hq hqfield]
      constructor
      · exact fun h => .inr ⟨hqfield, h⟩
      · rintro (⟨rfl, hr⟩ | ⟨-, h⟩)
        · exact absurd hr hqfield
        · exact h
  constructor
  · intro h q hq hsource hkind
    have ht := h _ (displayFor_display_eq_some_iff.2 ⟨q, hq, hsource, hkind, rfl⟩)
    rw [hread q hq] at ht
    exact (hkept q hq hkind).1 ht
  · intro h t ht
    obtain ⟨q, hq, hsource, hkind, rfl⟩ := displayFor_display_eq_some_iff.1 ht
    rw [hread q hq]
    exact (hkept q hq hkind).2 (h q hq hsource hkind)

/-- The short id of a custom record's identifier may belong to a record of another source: the
identifier is renamed after that one. And a name may be put in order where another record has the
field as it is written: the identifier no longer refers to the record that it was renamed after. -/
theorem resolveText_displayFor_foreign :
    let foreign : Record := { id := "abcd1".toList, sourceName := "b".toList, field := "f".toList }
    let own : Record :=
      { id := "zzzz9".toList, sourceName := "a".toList, field := "f".toList, kind := .custom }
    let s := Snapshot.ofRecords [foreign, own]
    let i := Identifier.display "a".toList "f".toList (some "abcd".toList)
    let title (field : String) : Record :=
      { id := field.toList, sourceName := "npc".toList, field := field.toList }
    let titles := Snapshot.ofRecords [title "Name", title "name"]
    let j := Identifier.display "NPC".toList "name".toList none
    s.resolve i = some own ∧
      (¬∀ t, s.displayFor 4 i = some t → s.resolveText t = some own ∧ own.kind ≠ .custom) ∧
      titles.resolve j = some (title "Name") ∧
      ¬∀ t, titles.displayFor 4 j = some t →
        titles.resolveText t = some (title "Name") ∧ (title "Name").kind ≠ .custom := by
  intro foreign own s i title titles j
  have hj : titles.resolve j = some (title "Name") := by
    simp only [j, resolve, recordsBySourceField_eq]
    decide +kernel
  refine ⟨?_, fun h => ?_, hj, fun h => ?_⟩
  · simp only [i, resolve, recordsBySourceField_eq]
    decide +kernel
  · have hfound : s.refreshingRecord "a".toList "f".toList (some "abcd".toList) = some foreign := by
      decide +kernel
    have hcond := (resolveText_displayFor_iff (by decide) (by decide) 4).1 h foreign hfound
      (by decide) (by decide)
    exact absurd hcond (by decide)
  · have hfound : titles.refreshingRecord "NPC".toList "name".toList none =
        some (title "Name") := by
      simp only [refreshingRecord, findBySourceField, recordsBySourceField_eq]
      decide +kernel
    have hother : titles.resolve (.display "npc".toList "name".toList none) =
        some (title "name") := by
      simp only [resolve, recordsBySourceField_eq]
      decide +kernel
    have hcond := (resolveText_displayFor_iff (by decide) (by decide) 4).1 h (title "Name") hfound
      (by decide) (by decide)
    rw [show (title "Name").sourceName = "npc".toList from rfl, hother] at hcond
    exact absurd hcond (by decide)

end LiveText.Snapshot
