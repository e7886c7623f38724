import LiveText.Proofs.Forms.Refreshing
import LiveText.Proofs.Forms.RoundTrip
import LiveText.Proofs.Identifier.Unchanged

/-!
# Texts that are settled in display form

A text in display form is refreshed whenever it is edited, so refreshing it twice should give what
refreshing it once gives. It does if and only if the text is settled then: no gap is missing between
its identifiers, and each of them is up to date (`toDisplayForm_toDisplayForm_iff`). Neither goes
without saying. A short id that an identifier is shown with may lead to a record of another source,
and the next pass renames the identifier after this one. And a legacy identifier, which nothing has to
be separated from, may give way to a display identifier that has.

Where the registry tells its records apart and gives one name to one source (`ToldApart`, `OneName`),
every text settles at once that refers to no record by a legacy identifier
(`toDisplayForm_toDisplayForm`).
-/

set_option autoImplicit false

namespace LiveText

open Text Identifier

namespace Snapshot

/-! ## When a text is settled -/

section
variable {s : Snapshot} {n : Int} {i j : Identifier}

/-- No name of a record holds the at sign that opens an identifier. -/
def Unmarked (s : Snapshot) : Prop :=
  ∀ r ∈ s.records, '@' ∉ r.id ∧ '@' ∉ r.sourceName ∧ '@' ∉ r.field

instance (s : Snapshot) : Decidable s.Unmarked :=
  inferInstanceAs (Decidable (∀ r ∈ s.records, '@' ∉ r.id ∧ '@' ∉ r.sourceName ∧ '@' ∉ r.field))

/-- A display identifier has one at sign, if none of its parts has one. -/
theorem marked_display {source field : Text} {shortId : Option Text} (hsource : '@' ∉ source)
    (hfield : '@' ∉ field) (hshort : ∀ w ∈ shortId, '@' ∉ w) :
    Marked (Identifier.display source field shortId).text := by
  refine ⟨_, rfl, ?_⟩
  rw [body, List.mem_append, List.mem_cons, List.mem_append]
  rintro (h | h | h | h)
  · exact hsource h
  · exact absurd h (by decide)
  · exact hfield h
  · rcases mem_optionalPart h with h | ⟨w, hw, h⟩
    · exact absurd h (by decide)
    · exact hshort w hw h

/-- Only display identifiers have a dot. -/
theorem dot_notMem_body (h : i.WellFormed) (hi : i.isDisplay = false) : '.' ∉ i.body := by
  intro hdot
  have hword : ∀ {t : Text}, IsRun isWord t → '.' ∉ t := fun ht hm => absurd (ht.2 _ hm) (by decide)
  have hid : ∀ {t : Text}, IsRun isIdChar t → '.' ∉ t := fun ht hm => absurd (ht.2 _ hm) (by decide)
  cases i with
  | display source field shortId => cases hi
  | system id field =>
    rw [body, List.mem_append, List.mem_append] at hdot
    rcases hdot with hdot | hdot | hdot
    · exact absurd hdot (by decide)
    · exact hid h.1 hdot
    · rcases mem_optionalPart hdot with hdot | ⟨w, hw, hdot⟩
      · exact absurd hdot (by decide)
      · exact hword (h.2 w hw) hdot
  | legacy kind id field =>
    have hkind : '.' ∉ kind := fun hm => absurd (h.1.2 _ hm) (by decide)
    simp only [body, List.mem_append, List.mem_cons] at hdot
    rcases hdot with hdot | hdot | hdot | hdot | hdot | hdot | hdot
    · exact absurd hdot (by decide)
    · exact hkind hdot
    · exact absurd hdot (by decide)
    · exact hid h.2.1 hdot
    · exact absurd hdot (by decide)
    · exact hword h.2.2 hdot
    · exact absurd hdot (by decide)

theorem field?_of_wellFormed (h : i.WellFormed) {field : Text} (hfield : i.field? = some field) :
    IsRun isWord field := by
  cases i with
  | display source f shortId => cases hfield; exact h.2.1
  | legacy kind id f => cases hfield; exact h.2.2
  | system id f => exact h.2 field hfield

/-- An identifier is shown as another one, and with one at sign as it has itself. -/
theorem marked_refreshed? (hs : s.Unmarked) (hi : i.WellFormed) (h : s.refreshed? n i = some j) :
    Marked j.text ∧ j.text ≠ i.text := by
  have hword : ∀ {t : Text}, IsRun isWord t → '@' ∉ t := fun ht hm => absurd (ht.2 _ hm) (by decide)
  rcases refreshed?_cases h with ⟨hdisplay, r, hr, field, hfield, rfl⟩ |
    ⟨source, field, shortId, rfl, q, hq, hsource, -, rfl⟩
  · have hat : '@' ∉ field := by
      rcases hfield with rfl | hfield
      · exact (hs r hr).2.2
      · exact hword (field?_of_wellFormed hi hfield)
    refine ⟨marked_display (hs r hr).2.1 hat ?_, fun htext => ?_⟩
    · rintro w ⟨⟩ hw
      have hsubset : r.shortId n ⊆ r.id := List.IsPrefix.subset <| upTo_prefix n r.id
      exact (hs r hr).1 (hsubset hw)
    · refine dot_notMem_body hi hdisplay ?_
      rw [← (List.cons.inj htext).2]
      exact List.mem_append_right _ List.mem_cons_self
  · refine ⟨marked_display (hs q (mem_of_refreshingRecord hq)).2.1 (hword hi.2.1) ?_, ?_⟩
    · exact fun w hw hm => absurd ((hi.2.2 w hw).1.2 _ hm) (by decide)
    · exact fun htext => hsource (List.append_cancel_right (List.cons.inj htext).2)

/-- A text is in display form already if and only if it is settled: no gap is missing in it, and none
of its identifiers is shown as another one. -/
theorem toDisplayForm_eq_self_iff (hs : s.Unmarked) {t : Text} :
    s.toDisplayForm n t = t ↔
      separate t = t ∧ ∀ i, .identifier i ∈ tokens t → s.displayFor n i = none := by
  refine pass_eq_self_iff fun i hi u hu => ?_
  rw [displayFor_eq] at hu
  obtain ⟨j, hj, rfl⟩ := Option.map_eq_some_iff.1 hu
  exact marked_refreshed? hs hi hj

/-- **When refreshing twice is refreshing once**: the refreshed text needs no more gaps, and each of
its identifiers is up to date. -/
theorem toDisplayForm_toDisplayForm_iff (hs : s.Unmarked) (t : Text) :
    s.toDisplayForm n (s.toDisplayForm n t) = s.toDisplayForm n t ↔
      separate (s.toDisplayForm n t) = s.toDisplayForm n t ∧
        ∀ i, .identifier i ∈ tokens (s.toDisplayForm n t) → s.displayFor n i = none :=
  toDisplayForm_eq_self_iff hs

end

/-- Two records share a short id: the system identifier of the second one is shown under the name of
its source, and then under that of the first one. And a legacy identifier gives way to a display
identifier that has to be separated from the one behind it. -/
theorem toDisplayForm_toDisplayForm_collision :
    let first : Record := { id := "abcd1".toList, sourceName := "b".toList, field := "f".toList }
    let second : Record := { id := "abcd2".toList, sourceName := "a".toList, field := "f".toList }
    let s := Snapshot.ofRecords [first, second]
    let hp : Record := { id := "abcd1".toList, sourceName := "npc".toList, field := "hp".toList }
    let legacy := Snapshot.ofRecords [hp]
    s.Unmarked ∧ legacy.Unmarked ∧
      s.toDisplayForm 4 "@gv_abcd2_f".toList = "@a.f#abcd".toList ∧
      s.toDisplayForm 4 (s.toDisplayForm 4 "@gv_abcd2_f".toList) ≠
        s.toDisplayForm 4 "@gv_abcd2_f".toList ∧
      legacy.toDisplayForm 4 "@gv_npc_abcd1_hp-=@npc.hp".toList = "@npc.hp#abcd@npc.hp".toList ∧
      legacy.toDisplayForm 4 (legacy.toDisplayForm 4 "@gv_npc_abcd1_hp-=@npc.hp".toList) ≠
        legacy.toDisplayForm 4 "@gv_npc_abcd1_hp-=@npc.hp".toList := by
  intro first second s hp legacy
  have hs : s.Unmarked := by decide
  have hlegacy : legacy.Unmarked := by decide
  have hshown : s.toDisplayForm 4 "@gv_abcd2_f".toList = "@a.f#abcd".toList := by
    have htokens : tokens (separate (collapse "@gv_abcd2_f".toList)) =
        [.identifier (.system "abcd2".toList (some "f".toList))] := by decide +kernel
    have hdisplay : s.displayFor 4 (.system "abcd2".toList (some "f".toList)) =
        some "@a.f#abcd".toList := by
      rw [displayFor, displayForSystem, findBySystemId_of_ne_nil s (by decide) (by decide),
        findByIdAndField_eq]
      decide +kernel
    rw [toDisplayForm, replaceIdentifiers, htokens, substitute_identifier, hdisplay]
    decide
  have hglued : legacy.toDisplayForm 4 "@gv_npc_abcd1_hp-=@npc.hp".toList =
      "@npc.hp#abcd@npc.hp".toList := by
    have htokens : tokens (separate (collapse "@gv_npc_abcd1_hp-=@npc.hp".toList)) =
        [.identifier (.legacy "npc".toList "abcd1".toList "hp".toList),
          .identifier (.display "npc".toList "hp".toList none)] := by decide +kernel
    have hdisplay : legacy.displayFor 4 (.legacy "npc".toList "abcd1".toList "hp".toList) =
        some "@npc.hp#abcd".toList := by
      rw [displayFor, displayForSystem, findBySystemId_of_ne_nil legacy (by decide) (by decide),
        findByIdAndField_eq]
      decide +kernel
    have hcurrent : legacy.displayFor 4 (.display "npc".toList "hp".toList none) = none := by
      simp only [displayFor, renamedSource, findBySourceField, recordsBySourceField_eq]
      decide +kernel
    rw [toDisplayForm, replaceIdentifiers, htokens, substitute_identifier, substitute_identifier,
      hdisplay, hcurrent]
    decide
  refine ⟨hs, hlegacy, hshown, fun h => ?_, hglued, fun h => ?_⟩
  · have hcurrent := ((toDisplayForm_toDisplayForm_iff hs _).1 h).2
    rw [hshown] at hcurrent
    have hnone := hcurrent (.display "a".toList "f".toList (some "abcd".toList)) (by decide +kernel)
    exact absurd hnone (by decide +kernel)
  · have hseparate := ((toDisplayForm_toDisplayForm_iff hlegacy _).1 h).1
    rw [hglued] at hseparate
    exact absurd hseparate (by decide +kernel)

/-! ## Where every text settles at once -/

/-- An id stands for one source, and a name for one source in whatever way it is written. -/
structure OneName (s : Snapshot) : Prop where
  id : ∀ r ∈ s.records, ∀ q ∈ s.records, r.id = q.id → r.sourceName = q.sourceName
  name : ∀ r ∈ s.records, ∀ q ∈ s.records, ∀ mode : MatchMode,
    mode.nameKey r.sourceName = mode.nameKey q.sourceName → r.sourceName = q.sourceName

/-- The identifier that an identifier is shown as. -/
def current (s : Snapshot) (n : Int) (i : Identifier) : Identifier := (s.refreshed? n i).getD i

theorem getD_displayFor (s : Snapshot) (n : Int) (i : Identifier) :
    (s.displayFor n i).getD i.text = (s.current n i).text := by
  rw [displayFor_eq, current]
  cases s.refreshed? n i with
  | none => rfl
  | some j => rfl

section
variable {s : Snapshot} {n : Nat} (hs : s.ToldApart n)
include hs

theorem ToldApart.unmarked : s.Unmarked := by
  have hword : ∀ {t : Text}, IsRun isWord t → '@' ∉ t := fun ht hm => absurd (ht.2 _ hm) (by decide)
  intro r hr
  refine ⟨fun hm => ?_, fun hm => ?_, hword (hs.field r hr)⟩
  · exact absurd ((hs.id r hr).2 _ hm) (by decide)
  · exact absurd ((hs.sourceName r hr).2 _ hm) (by decide)

/-- **What an identifier is shown as is up to date.** -/
theorem refreshed?_of_refreshed? (hone : s.OneName) {i j : Identifier}
    (h : s.refreshed? n i = some j) : s.refreshed? n j = none := by
  rw [Option.eq_none_iff_forall_ne_some]
  intro k hk
  rcases refreshed?_cases h with ⟨-, r, hr, field, -, rfl⟩ |
    ⟨source, field, shortId, rfl, q, hq, -, -, rfl⟩
  · -- the short id leads back to the id, and the id to the name
    obtain ⟨q, hq, hsource, -, -⟩ := refreshed?_display_eq_some_iff.1 hk
    have hmem := mem_of_refreshingRecord hq
    rw [shortId_natCast, refreshingRecord, Option.or_eq_some_iff] at hq
    have hstarts : startsWith (r.id.take n) q = true := by
      rcases hq with hq | ⟨-, hq⟩
      · exact (of_findByShortId hq).2.1
      · exact (of_findByShortId hq).2.1
    exact hsource (hone.id q hmem r hr (hs.id_eq_of_startsWith hr hmem hstarts))
  · obtain ⟨p, hp, hsource, -, -⟩ := refreshed?_display_eq_some_iff.1 hk
    cases shortId with
    | some w =>
      -- a short id leads to one record, whatever the source
      rw [refreshingRecord] at hq hp
      rw [hq] at hp
      cases hp
      exact hsource rfl
    | none =>
      obtain ⟨-, -, mode, hfind⟩ := findBySourceField_eq_some hp
      have hkey : mode.recordKey p = mode.pairKey q.sourceName field := by
        simpa using List.find?_some hfind
      exact hsource (hone.name p (mem_of_refreshingRecord hp) q (mem_of_refreshingRecord hq) mode
        (congrArg Prod.fst hkey))

/-- What an identifier is shown as stands wherever the identifier stands, unless a mark closes it. -/
theorem standsBefore_current (hn : 4 ≤ n) (hn' : n ≤ 6) {i : Identifier} (hi : i.isLegacy = false)
    {t : Text} (h : StandsBefore i t) : StandsBefore (s.current n i) t := by
  rw [current]
  cases hj : s.refreshed? n i with
  | none => exact h
  | some j =>
    rw [Option.getD_some]
    rcases refreshed?_cases hj with ⟨-, r, hr, field, hfield, rfl⟩ |
      ⟨source, field, shortId, rfl, q, hq, -, -, rfl⟩
    · rw [shortId_natCast]
      refine standsBefore_display (wellFormed_shown hs hn hn' hr hr ?_)
        (not_isWord_of_standsBefore hi h)
      rcases hfield with rfl | hfield
      · exact hs.field r hr
      · exact field?_of_wellFormed (wellFormed_of_read h) hfield
    · exact standsBefore_renamed (hs.sourceName q (mem_of_refreshingRecord hq)) h

/-- **Refreshing twice is refreshing once** where the registry tells its records apart and gives one
name to one source, in every text that refers to no record by a legacy identifier. -/
theorem toDisplayForm_toDisplayForm (hone : s.OneName) (hn : 4 ≤ n) (hn' : n ≤ 6) {t : Text}
    (ht : ∀ i, .identifier i ∈ tokens (separate (collapse t)) → i.isLegacy = true →
      s.displayFor n i = none) :
    s.toDisplayForm n (s.toDisplayForm n t) = s.toDisplayForm n t := by
  have hread := reading_tokens (separate (collapse t))
  have hgap := noGap_tokens_separate (collapse t)
  have hlegacy : ∀ i, .identifier i ∈ tokens (separate (collapse t)) → i.isLegacy = true →
      s.current n i = i := by
    intro i hi hl
    have hnone := ht i hi hl
    rw [displayFor_eq, Option.map_eq_none_iff] at hnone
    rw [current, hnone, Option.getD_none]
  have hfits : Fits (s.current n) (tokens (separate (collapse t))) := by
    refine hread.fits fun i hi u hu => ?_
    cases hl : i.isLegacy with
    | true => rwa [hlegacy i hi hl]
    | false => exact standsBefore_current hs hn hn' hl hu
  have hkeeps : ∀ i, .identifier i ∈ tokens (separate (collapse t)) →
      (s.current n i).isLegacy = i.isLegacy := by
    intro i hi
    cases hl : i.isLegacy with
    | true => rw [hlegacy i hi hl, hl]
    | false =>
      rw [current]
      cases hj : s.refreshed? n i with
      | none => exact hl
      | some j => exact isLegacy_refreshed? hj
  have hread' := hread.map_of_noGap hgap (.inl rfl) hfits hlegacy
  have hgap' := hgap.map_of_isLegacy hread hkeeps
  have hshown : s.toDisplayForm n t =
      written ((tokens (separate (collapse t))).map (Token.map (s.current n))) := by
    rw [toDisplayForm, replaceIdentifiers, written_map]
    exact substitute_congr fun i _ => getD_displayFor s n i
  rw [hshown, toDisplayForm_eq_self_iff hs.unmarked]
  refine ⟨separate_written hread' hgap', fun j hj => ?_⟩
  rw [hread'.tokens_eq, List.mem_map] at hj
  obtain ⟨u, hu, hju⟩ := hj
  cases u with
  | char c => cases hju
  | identifier i =>
    cases hju
    rw [displayFor_eq, Option.map_eq_none_iff, current]
    cases hi : s.refreshed? n i with
    | none => rwa [Option.getD_none]
    | some k => exact refreshed?_of_refreshed? hs hone hi

end

/-- Two records of one source, and two identifiers of theirs that stand back to back. -/
theorem toDisplayForm_toDisplayForm_pair :
    let hp : Record := { id := "a1b2-x".toList, sourceName := "npc".toList, field := "hp".toList }
    let mp : Record := { id := "C3D4".toList, sourceName := "npc".toList, field := "mp".toList }
    let s := Snapshot.ofRecords [hp, mp]
    let t := "HP: @gv_a1b2-x_hp@gv_C3D4_mp#1.".toList
    s.ToldApart 4 ∧ s.OneName ∧
      s.toDisplayForm 4 (s.toDisplayForm 4 t) = s.toDisplayForm 4 t := by
  intro hp mp s t
  have hs : s.ToldApart 4 := ⟨by decide, by decide, by decide, by decide, by decide, by decide⟩
  have hsource : ∀ r ∈ s.records, r.sourceName = "npc".toList := by decide
  have hone : s.OneName :=
    ⟨fun r hr q hq _ => (hsource r hr).trans (hsource q hq).symm,
      fun r hr q hq _ _ => (hsource r hr).trans (hsource q hq).symm⟩
  have hlegacy : (tokens (separate (collapse t))).all
      (fun u => u.identifier?.all fun i => !i.isLegacy) = true := by decide +kernel
  refine ⟨hs, hone, toDisplayForm_toDisplayForm hs hone (by decide) (by decide) fun i hi hl => ?_⟩
  have hnot := List.all_eq_true.1 hlegacy _ hi
  rw [Token.identifier?, Option.all_some, hl] at hnot
  cases hnot

end Snapshot
end LiveText
