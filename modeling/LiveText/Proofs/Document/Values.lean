import LiveText.Session.Basic
import LiveText.Proofs.Document.Paragraph
import LiveText.Proofs.Identifier.Unchanged
import LiveText.Proofs.Record.Merge
import LiveText.Proofs.Registry.Values

/-!
# Values appear in resolved texts only

Two registries may know the same records under different values (`Registry.AgreeButValues`). Then
they cannot be told apart by what is stored, edited, rendered or reported, only by what is resolved;
and resolved texts differ in the values alone (`Registry.AgreeButValues.readAlike`).

Each of the functions gives the same for a snapshot and for the snapshot without values, and the
snapshots of two such registries without values are one and the same
(`Registry.AgreeButValues.emptied_eq`). So no argument is about two runs at once.

A resolved text is no exception, if one looks at the parts that it is put together of: which parts
are kept and which are values is found without values, too (`Snapshot.parts_emptied`). A value is one
part from its start to its end, whatever is in it.
-/

set_option autoImplicit false

namespace LiveText

/-! ## Parts of a resolved text -/

/-- A part of a resolved text. -/
inductive ResolvedPart
  /-- a text that was there before -/
  | literal (t : Text)
  /-- the value of a record, in the place of an identifier -/
  | value (i : Identifier) (r : Record)

namespace ResolvedPart

/-- The part in the text before it was resolved. -/
def source : ResolvedPart → Text
  | literal t => t
  | value i _ => i.text

/-- The part in the resolved text. -/
def text : ResolvedPart → Text
  | literal t => t
  | value _ r => r.value

/-- The part without its value. -/
def emptied : ResolvedPart → ResolvedPart
  | literal t => literal t
  | value i r => value i r.emptied

end ResolvedPart

namespace Snapshot

/-- What becomes of a token. -/
def part (s : Snapshot) : Token → ResolvedPart
  | .char c => .literal [c]
  | .identifier i =>
    match s.resolve i with
    | some r => .value i r
    | none => .literal i.text

/-- The parts of a resolved text. -/
def parts (s : Snapshot) (t : Text) : List ResolvedPart := (tokens (separate t)).map s.part

section
variable (s : Snapshot)

theorem source_part (w : Token) : (s.part w).source = w.text := by
  cases w with
  | char c => rfl
  | identifier i =>
    rw [part]
    split
    · rfl
    · rfl

theorem part_emptied (w : Token) : s.emptied.part w = (s.part w).emptied := by
  cases w with
  | char c => rfl
  | identifier i =>
    rw [part, part, resolve_emptied]
    cases s.resolve i with
    | none => rfl
    | some r => rfl

/-- The parts stand in the places of the tokens of the text. -/
theorem source_parts (t : Text) : (s.parts t).flatMap ResolvedPart.source = separate t := by
  rw [parts, List.flatMap_map]
  simp only [source_part]
  exact text_tokens (separate t)

/-- A resolved text is put together of its parts. -/
theorem resolveIn_eq_parts (t : Text) : s.resolveIn t = (s.parts t).flatMap ResolvedPart.text := by
  rw [resolveIn, parts]
  induction tokens (separate t) with
  | nil => rfl
  | cons w ws ih =>
    cases w with
    | char c => rw [substitute_char, ih, List.map_cons, List.flatMap_cons, part]; rfl
    | identifier i =>
      rw [substitute_identifier, ih, List.map_cons, List.flatMap_cons, part, valueFor]
      cases s.resolve i with
      | none => rfl
      | some r => rfl

theorem parts_emptied (t : Text) : s.emptied.parts t = (s.parts t).map ResolvedPart.emptied := by
  rw [parts, parts, List.map_map]
  exact List.map_congr_left fun w _ => s.part_emptied w

/-! ## Texts and reports -/

theorem toSystemForm_emptied (t : Text) : s.emptied.toSystemForm t = s.toSystemForm t := by
  rw [toSystemForm, toSystemForm, show s.emptied.systemFor = s.systemFor from
    funext s.systemFor_emptied]

theorem toDisplayForm_emptied (n : Int) (t : Text) :
    s.emptied.toDisplayForm n t = s.toDisplayForm n t := by
  rw [toDisplayForm, toDisplayForm, show s.emptied.displayFor n = s.displayFor n from
    funext (s.displayFor_emptied n)]

theorem unresolvedIn_emptied (t : Text) : s.emptied.unresolvedIn t = s.unresolvedIn t := by
  simp only [unresolvedIn, resolve_emptied, Option.isNone_map]

theorem map_key_usedIn_emptied (t : Text) :
    (s.emptied.usedIn t).map Record.key = (s.usedIn t).map Record.key := by
  have hkey : ∀ i, (s.emptied.resolve i).map Record.key = (s.resolve i).map Record.key := fun i => by
    rw [resolve_emptied, Option.map_map]
    rfl
  rw [usedIn, usedIn, Record.map_key_distinct, Record.map_key_distinct, List.map_filterMap,
    List.map_filterMap]
  simp only [hkey]

end

end Snapshot

/-! ## Documents -/

namespace Renderer

/-- The renderer that shows the records without their values. -/
def emptied (r : Renderer) : Renderer := { r with records := r.records.map Snapshot.emptied }

section
variable (r : Renderer)

theorem find_emptied (i : Identifier) : r.emptied.find i = (r.find i).map Record.emptied := by
  rw [find, find, emptied]
  cases r.records with
  | none => rfl
  | some s => exact s.resolve_emptied i

theorem info_emptied (i : Identifier) : r.emptied.info i = r.info i := by
  rw [info, info, find_emptied]
  cases r.find i with
  | none => rfl
  | some found => rfl

theorem attributes_emptied (i : Identifier) : r.emptied.attributes i = r.attributes i := by
  rw [attributes, attributes, info_emptied]
  rfl

theorem piece_emptied : r.emptied.piece = r.piece := by
  funext w
  cases w with
  | char c => rfl
  | identifier i => rw [piece, piece, attributes_emptied, info_emptied]

/-- **A document that is written shows no values.** -/
theorem render_emptied (raw : Text) : r.emptied.render raw = r.render raw := by
  have hlines : r.emptied.lines raw = r.lines raw := by
    rw [lines, lines]
    refine List.map_congr_left fun l _ => ?_
    rw [line, line, piece_emptied]
  rw [render, render, paragraphs_eq, paragraphs_eq, hlines]

end
end Renderer

/-! ## Registries -/

namespace Registry

/-- Two registries know the same records, in one order, under values of their own. -/
structure AgreeButValues (g g' : Registry) : Prop where
  shortIdLength : g.shortIdLength = g'.shortIdLength
  records : g.records.map Record.emptied = g'.records.map Record.emptied

/-- Two registries give the same for a text, the values in it apart once it is resolved. -/
structure ReadAlike (g g' : Registry) (t : Text) : Prop where
  systemForm : g.snapshot.toSystemForm t = g'.snapshot.toSystemForm t
  displayForm :
    g.snapshot.toDisplayForm g.shortIdLength t = g'.snapshot.toDisplayForm g'.shortIdLength t
  /-- for renderers with the same rules, and with the short ids of the registry or of any length -/
  rendered : ∀ (kinds : List KindRule) (length : Option Int),
    ({ records := some g.snapshot, kinds, shortIdLength := length.getD g.shortIdLength } :
        Renderer).render t =
      ({ records := some g'.snapshot, kinds, shortIdLength := length.getD g'.shortIdLength } :
        Renderer).render t
  unresolved : g.snapshot.unresolvedIn t = g'.snapshot.unresolvedIn t
  /-- for a session with this raw text -/
  used : ∀ s : Session,
    ({ s with registry := g, content.raw := t } : Session).usedRecords.map Record.key =
      ({ s with registry := g', content.raw := t } : Session).usedRecords.map Record.key
  /-- each resolved text is what stands in the places of the parts of the separated text -/
  places : ∀ k ∈ [g, g'], (k.snapshot.parts t).flatMap ResolvedPart.source = separate t ∧
    k.snapshot.resolveIn t = (k.snapshot.parts t).flatMap ResolvedPart.text
  /-- the parts differ in the values of the records only -/
  parts :
    (g.snapshot.parts t).map ResolvedPart.emptied = (g'.snapshot.parts t).map ResolvedPart.emptied

theorem AgreeButValues.emptied_eq {g g' : Registry} (h : g.AgreeButValues g') :
    g.snapshot.emptied = g'.snapshot.emptied := Snapshot.eq_of_records h.records

/-- **Values appear in resolved texts only.** Registries that differ in values alone cannot be told
apart by the stored or the displayed form of a text, by a document that is written for it or by a
report on its identifiers; and when they resolve it, they keep the same parts of it, in the same
places, and put each value in as it is. -/
theorem AgreeButValues.readAlike {g g' : Registry} (h : g.AgreeButValues g') (t : Text) :
    g.ReadAlike g' t where
  systemForm := by rw [← Snapshot.toSystemForm_emptied, h.emptied_eq, Snapshot.toSystemForm_emptied]
  displayForm := by
    rw [h.shortIdLength, ← Snapshot.toDisplayForm_emptied, h.emptied_eq,
      Snapshot.toDisplayForm_emptied]
  rendered kinds length := by
    rw [h.shortIdLength, ← Renderer.render_emptied, Renderer.emptied, Option.map_some, h.emptied_eq]
    exact Renderer.render_emptied { records := some g'.snapshot, kinds, shortIdLength := _ } t
  unresolved := by rw [← Snapshot.unresolvedIn_emptied, h.emptied_eq, Snapshot.unresolvedIn_emptied]
  used _ := by
    change (g.snapshot.usedIn t).map Record.key = (g'.snapshot.usedIn t).map Record.key
    rw [← Snapshot.map_key_usedIn_emptied, h.emptied_eq, Snapshot.map_key_usedIn_emptied]
  places k _ := ⟨k.snapshot.source_parts t, k.snapshot.resolveIn_eq_parts t⟩
  parts := by rw [← Snapshot.parts_emptied, ← Snapshot.parts_emptied, h.emptied_eq]

/-- Two records, once with plain values and once with the identifier of the other one as the value. -/
theorem AgreeButValues.readAlike_crossed :
    let record (field value : String) : Record :=
      { id := "a1b2".toList, sourceName := "npc".toList, field := field.toList
        value := value.toList }
    let known (hp name : String) : Registry := ({} : Registry).register
      [record "hp" hp, record "name" name]
    let plain := known "7" "Tom"
    let crossed := known "@npc.name" "@npc.hp"
    let t := "@npc.name: @npc.hp#a1b2, @gone.x".toList
    plain.AgreeButValues crossed ∧ plain.ReadAlike crossed t ∧
      plain.snapshot.resolveIn t = "Tom: 7, @gone.x".toList ∧
      crossed.snapshot.resolveIn t = "@npc.hp: @npc.name, @gone.x".toList := by
  intro record known plain crossed t
  have h : plain.AgreeButValues crossed := ⟨rfl, by decide⟩
  have htokens : tokens (separate t) =
      [.identifier (.display "npc".toList "name".toList none), .char ':', .char ' ',
        .identifier (.display "npc".toList "hp".toList (some "a1b2".toList)), .char ',', .char ' ',
        .identifier (.display "gone".toList "x".toList none)] := by decide +kernel
  refine ⟨h, h.readAlike t, ?_, ?_⟩
  all_goals
    simp only [Snapshot.resolveIn, htokens, substitute_identifier, substitute_char, Snapshot.valueFor,
      Snapshot.resolve, Snapshot.recordsBySourceField_eq]
    decide +kernel

end Registry
end LiveText
