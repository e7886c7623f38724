import LiveText.Proofs.Document.Settling
import LiveText.Proofs.Identifier.Replacing
import LiveText.Proofs.Session.History

/-!
# Inserting a variable

What is inserted stands at the end of the content, behind a blank. So nothing that is there runs into
it, it is read again as it is written, and it refers to the record that it was made for
(`inserted_after`). This asks of the record that its id and its field are such as an identifier is made
of, and nothing of the content.

An insertion writes the content anew. What was there stays as it is read again (`raw_insert`), which
need not be as it was: of a blank text that stands alone only one blank is left.
-/

set_option autoImplicit false

namespace LiveText

open Text Identifier

/-! ## The identifier of a record -/

/-- The identifier that names a record by its id and its field. -/
def Record.systemIdentifier (r : Record) : Identifier := .system r.id (some r.field)

theorem Record.text_systemIdentifier {r : Record} (h : r.field ≠ []) :
    r.systemIdentifier.text = r.systemText := by
  rw [systemIdentifier, text, body, optionalPart_some h]
  rfl

theorem Record.wellFormed_systemIdentifier {r : Record} (hid : IsRun isIdChar r.id)
    (hfield : IsRun isWord r.field) : r.systemIdentifier.WellFormed :=
  ⟨hid, fun _ hf => Option.some.inj hf ▸ hfield⟩

namespace Snapshot

variable {s : Snapshot} (hkeys : (s.records.map Record.key).Nodup)
include hkeys

/-- The identifier of a record refers to it. -/
theorem resolve_systemIdentifier {r : Record} (hr : r ∈ s.records) (hid : r.id ≠ [])
    (hfield : r.field ≠ []) : s.resolve r.systemIdentifier = some r := by
  have hfound : s.records.find? (fun q => q.key == (r.id, r.field)) = some r := find?_key hkeys hr
  rw [Record.systemIdentifier, resolve, findBySystemId_of_ne_nil s hid hfield, findByIdAndField_eq,
    hfound, Option.some_or]

/-- What an identifier of a text refers to is used there. -/
theorem mem_usedIn {r : Record} {i : Identifier} {t : Text} (hi : i ∈ identifiers t)
    (hr : s.resolve i = some r) : r ∈ s.usedIn t := by
  refine Record.mem_distinct (List.mem_filterMap.2 ⟨i, hi, hr⟩) fun q hq hkey => ?_
  obtain ⟨j, -, hj⟩ := List.mem_filterMap.1 hq
  exact List.inj_on_of_nodup_map hkeys (mem_of_resolve hj) (mem_of_resolve hr) hkey

end Snapshot

/-- An identifier behind a blank is found behind those that stand in front of it. -/
theorem identifiers_append_text {t : Text} (h : t.EndsOpen) {i : Identifier} (hi : i.WellFormed) :
    identifiers (t ++ i.text) = identifiers t ++ [i] := by
  rw [identifiers_eq, identifiers_eq, separate_append h, separate_text hi,
    tokens_append (endsOpen_separate h), tokens_text hi]
  exact List.filterMap_append

namespace Session

/-! ## What an insertion writes -/

/-- What keeps an identifier from touching the text that it is put behind. -/
def gapBehind (raw : Text) : Text :=
  match raw.getLast? with
  | some c => if isBlank c then [] else [' ']
  | none => []

theorem appended_eq (raw u : Text) : appended raw u = raw ++ gapBehind raw ++ u := by
  rw [appended, gapBehind]
  cases hlast : raw.getLast? with
  | none =>
    rw [List.getLast?_eq_none_iff.1 hlast]
    rfl
  | some c =>
    dsimp only
    split
    · rw [List.append_nil]
    · rw [List.append_assoc]
      rfl

/-- A gap is a space, or there is none where the text ends in a blank. -/
theorem gapBehind_cases (raw : Text) :
    (raw.EndsOpen ∧ gapBehind raw = []) ∨ (¬raw.EndsBlank ∧ gapBehind raw = [' ']) := by
  rw [EndsOpen, endsBlank_iff, gapBehind, ← List.getLast?_eq_none_iff]
  cases raw.getLast? with
  | none => exact .inl ⟨.inl rfl, rfl⟩
  | some c =>
    by_cases hc : isBlank c = true
    · exact .inl ⟨.inr ⟨c, rfl, hc⟩, if_pos hc⟩
    · refine .inr ⟨?_, if_neg hc⟩
      rintro ⟨d, hd, hblank⟩
      exact hc (Option.some.inj hd ▸ hblank)

theorem endsOpen_append_gapBehind (raw : Text) : EndsOpen (raw ++ gapBehind raw) := by
  rcases gapBehind_cases raw with ⟨hopen, hgap⟩ | ⟨-, hgap⟩
  · rwa [hgap, List.append_nil]
  · rw [hgap]
    exact .inr ⟨raw, ' ', by decide, rfl⟩

/-- A gap is read again as it is. -/
theorem reread_append_gapBehind (keeps : Text → Bool) (raw : Text) :
    reread keeps (raw ++ gapBehind raw) = reread keeps raw ++ gapBehind raw := by
  rcases gapBehind_cases raw with ⟨-, hgap⟩ | ⟨hend, hgap⟩
  · rw [hgap, List.append_nil, List.append_nil]
  · rw [hgap, reread_append_space hend]

/-- An insertion writes the content anew. -/
theorem content_insert (s : Session) (r : Record) : (s.insert r).content.raw =
    reread Markup.keepsBlanks (appended s.content.raw r.systemText) :=
  rawText_render_eq s.renderer _

variable {r : Record}

/-- **The content after an insertion**: what was there, as it is read again, and the identifier behind
it. -/
theorem raw_insert (s : Session) (hid : IsRun isIdChar r.id) (hfield : IsRun isWord r.field) :
    (s.insert r).content.raw =
      rawText (s.renderer.render s.content.raw) ++ gapBehind s.content.raw ++ r.systemText := by
  have hwell := Record.wellFormed_systemIdentifier hid hfield
  rw [content_insert, appended_eq, ← Record.text_systemIdentifier hfield.1,
    reread_append_text (endsOpen_append_gapBehind _) hwell, reread_append_gapBehind,
    rawText_render_eq]

/-- The identifiers of the content after an insertion. -/
theorem identifiers_insert (s : Session) (hid : IsRun isIdChar r.id)
    (hfield : IsRun isWord r.field) :
    identifiers (s.insert r).content.raw =
      identifiers (rawText (s.renderer.render s.content.raw) ++ gapBehind s.content.raw) ++
        [r.systemIdentifier] := by
  have hopen : EndsOpen (reread Markup.keepsBlanks s.content.raw ++ gapBehind s.content.raw) := by
    rw [← reread_append_gapBehind]
    exact endsOpen_reread (endsOpen_append_gapBehind _)
  rw [raw_insert s hid hfield, rawText_render_eq, ← Record.text_systemIdentifier hfield.1,
    identifiers_append_text hopen (Record.wellFormed_systemIdentifier hid hfield)]

/-- A record that was inserted is used. -/
theorem mem_usedRecords_insert {s : Session} (hkeys : (s.snapshot.records.map Record.key).Nodup)
    (hr : r ∈ s.snapshot.records) (hid : IsRun isIdChar r.id) (hfield : IsRun isWord r.field) :
    r ∈ (s.insert r).usedRecords := by
  refine Snapshot.mem_usedIn (s := (s.insert r).snapshot) hkeys (i := r.systemIdentifier) ?_
    (Snapshot.resolve_systemIdentifier hkeys hr hid.1 hfield.1)
  rw [identifiers_insert s hid hfield]
  exact List.mem_append_right _ List.mem_cons_self

/-! ## What is promised -/

/-- What is promised of the insertion of a record. -/
structure Inserted (s : Session) (r : Record) : Prop where
  /-- the text ends with the identifier of the record -/
  ends : r.systemText <:+ (s.insert r).content.raw
  /-- the record is one of those that the text refers to -/
  used : r ∈ (s.insert r).usedRecords
  /-- in front of the identifier stands what was there, as it is read again -/
  raw : (s.insert r).content.raw =
    rawText (s.renderer.render s.content.raw) ++ gapBehind s.content.raw ++ r.systemText
  /-- if that is what it was, the text begins with it -/
  kept : rawText (s.renderer.render s.content.raw) = s.content.raw →
    s.content.raw <+: (s.insert r).content.raw

end Session

namespace SessionHistory

/-- **An inserted variable is used**, whatever happened to the session and to its registry before. -/
theorem inserted_after (shortIdLength : Int) (typing pasting : Nat) (es : List Event) {r : Record}
    (hr : r ∈ (after shortIdLength typing pasting es).session.snapshot.records)
    (hid : IsRun isIdChar r.id) (hfield : IsRun isWord r.field) :
    (after shortIdLength typing pasting es).session.Inserted r := by
  have hkeys := nodup_records_after shortIdLength typing pasting es
  generalize (after shortIdLength typing pasting es).session = s at hr hkeys
  have hraw := s.raw_insert hid hfield
  refine ⟨⟨_, hraw.symm⟩, Session.mem_usedRecords_insert hkeys hr hid hfield, hraw, fun hsame => ?_⟩
  rw [hsame, List.append_assoc] at hraw
  exact ⟨_, hraw.symm⟩

/-- A variable behind a text that was typed. -/
theorem inserted_after_typing :
    let entry : Value := .object
      [("id".toList, .text "a1".toList), ("name".toList, .text "hp".toList)]
    let hp : Record :=
      { id := "a1".toList, sourceName := "hp".toList, field := "hp".toList, name := "hp".toList }
    let es : List Event := [.takeIn .typing 0 "<p>HP:</p>".toList,
      .registry (.answered ⟨0, 0⟩ (.ok [entry])), .registry .load]
    let s := ((after 4 300 100 es).session.insert hp)
    hp ∈ s.snapshot.records ∧ s.content.raw = "HP: @gv_a1_hp".toList ∧ hp ∈ s.usedRecords := by
  intro entry hp es s
  have hr : hp ∈ (after 4 300 100 es).session.snapshot.records := by decide +kernel
  have h := inserted_after 4 300 100 es hr (by decide) (by decide)
  have hcontent : (after 4 300 100 es).session.content.raw = "HP:".toList := by decide +kernel
  refine ⟨hr, ?_, h.used⟩
  rw [h.raw, hcontent, rawText_render_eq]
  decide +kernel

/-- An identifier does not name an id with an underscore; and of two blanks that stand between two
identifiers one is left. -/
theorem not_inserted_after :
    let entry (id : Text) : Value :=
      .object [("id".toList, .text id), ("name".toList, .text "hp".toList)]
    let hp (id : Text) : Record :=
      { id, sourceName := "hp".toList, field := "hp".toList, name := "hp".toList }
    let s (id html : Text) : Session := (after 4 300 100 [.takeIn .typing 0 html,
      .registry (.answered ⟨0, 0⟩ (.ok [entry id])), .registry .load]).session
    let first := s "a_b".toList []
    let second := s "a1".toList "<p>@a.b  @c.d</p>".toList
    (hp "a_b".toList ∈ first.snapshot.records ∧
      hp "a_b".toList ∉ (first.insert (hp "a_b".toList)).usedRecords) ∧
    (hp "a1".toList ∈ second.snapshot.records ∧
      ¬second.content.raw <+: (second.insert (hp "a1".toList)).content.raw) := by
  intro entry hp s first second
  refine ⟨⟨by decide +kernel, ?_⟩, by decide +kernel, ?_⟩
  · have hraw : first.content.raw = [] := by decide +kernel
    have hrecords : first.snapshot.records = [hp "a_b".toList] := by decide +kernel
    have hidentifiers : identifiers (reread Markup.keepsBlanks
        (Session.appended [] (hp "a_b".toList).systemText)) =
          [.system "a".toList (some "b_hp".toList)] := by decide +kernel
    have hnone : first.snapshot.resolve (.system "a".toList (some "b_hp".toList)) = none := by
      rw [Snapshot.resolve, Snapshot.findBySystemId_of_ne_nil _ (by decide) (by decide),
        Snapshot.findByIdAndField_eq, hrecords]
      decide +kernel
    have hused : (first.insert (hp "a_b".toList)).usedRecords =
        Record.distinct ((identifiers (first.insert (hp "a_b".toList)).content.raw).filterMap
          first.snapshot.resolve) := rfl
    rw [hused, Session.content_insert, hraw, hidentifiers, List.filterMap_cons_none hnone]
    exact List.not_mem_nil
  · have hraw : second.content.raw = "@a.b  @c.d".toList := by decide +kernel
    rw [Session.content_insert, hraw]
    decide +kernel

end SessionHistory
end LiveText
