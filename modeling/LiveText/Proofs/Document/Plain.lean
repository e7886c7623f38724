import LiveText.Proofs.Document.Paragraph
import LiveText.Proofs.Registry.Lookup

/-!
# Which documents are plain

A renderer copies what stands in a raw text and in the records that it refers to, and adds only marks
and words of its own. So the documents that it writes are plain where the raw text and the records
are, whatever identifiers are found and whatever they refer to (`plain_paragraphs`).

What a tag tells is said of any class of characters that the characters of the identifier and of its
record belong to, and the marks between them (`all_info`, `all_value`).
-/

set_option autoImplicit false

namespace LiveText

open Markup

/-! ## Texts -/

/-- No text of the record that a document may show holds a control character that markup does not
keep. -/
def Record.Plain (x : Record) : Prop :=
  [x.id, x.sourceName, x.field, x.value].all (·.all isPlain) = true

instance (x : Record) : Decidable x.Plain := instDecidableEqBool _ _

theorem Record.plain_iff {x : Record} : x.Plain ↔
    x.id.all isPlain = true ∧ x.sourceName.all isPlain = true ∧ x.field.all isPlain = true ∧
      x.value.all isPlain = true := by
  simp only [Record.Plain, List.all_cons, List.all_nil, Bool.and_true, Bool.and_eq_true]

/-- The records of the snapshot are plain. -/
def Snapshot.Plain (s : Snapshot) : Prop := ∀ x ∈ s.records, x.Plain

/-- A line holds nothing that is not in the text. -/
theorem subset_joinLines {ls : List Text} : ∀ l ∈ ls, l ⊆ Text.joinLines ls := by
  induction ls with
  | nil => simp
  | cons l ls ih =>
    cases ls with
    | nil => exact List.forall_mem_singleton.2 fun _ hc => hc
    | cons m ls =>
      rw [Text.joinLines_cons_cons]
      refine List.forall_mem_cons.2 ⟨List.subset_append_left _ _, fun k hk => ?_⟩
      exact List.subset_append_of_subset_right _ (List.subset_cons_of_subset _ (ih k hk))

/-- Separating adds nothing but spaces. -/
theorem all_separateAfter {p : Char → Bool} (hspace : p ' ' = true) (prev : Option Char) {t : Text}
    (h : t.all p = true) : (separateAfter prev t).all p = true := by
  fun_induction separateAfter prev t with
  | case1 prev t i r hr _ ih =>
    rw [Identifier.read_append (Identifier.read_of_readAfter hr), List.all_append,
      Bool.and_eq_true] at h
    rw [List.all_append, List.all_cons, h.1, hspace, ih h.2]
    rfl
  | case2 prev t i r hr _ ih =>
    rw [Identifier.read_append (Identifier.read_of_readAfter hr), List.all_append,
      Bool.and_eq_true] at h
    rw [List.all_append, h.1, ih h.2]
    rfl
  | case3 => rfl
  | case4 prev c cs _ ih =>
    rw [List.all_cons, Bool.and_eq_true] at h
    rw [List.all_cons, h.1, ih h.2]
    rfl

/-- A token holds nothing that is not in the text. -/
theorem subset_of_mem_tokens {t : Text} {s : LiveText.Token} (h : s ∈ LiveText.tokens t) :
    s.text ⊆ t := by
  intro c hc
  rw [← text_tokens t]
  exact List.mem_flatMap.2 ⟨s, h, hc⟩

/-! ## Identifiers -/

section
variable {p : Char → Bool}

theorem all_getD {o : Option Text} {d : Text} (ho : o.all (·.all p) = true)
    (hd : d.all p = true) : (o.getD d).all p = true := by
  cases o with
  | none => exact hd
  | some t => exact ho

/-- What holds of all characters holds of those at the start. -/
theorem all_upTo {n : Int} {t : Text} (h : t.all p = true) : (Text.upTo n t).all p = true :=
  all_of_subset (Text.upTo_prefix n t).subset h

namespace Identifier

theorem all_of_optionalPart {mark : Char} {o : Option Text}
    (h : (optionalPart mark o).all p = true) : o.all (·.all p) = true := by
  cases o with
  | none => rfl
  | some t =>
    cases t with
    | nil => rfl
    | cons c t =>
      rw [optionalPart, List.all_cons, Bool.and_eq_true] at h
      exact h.2

/-- What holds of the characters behind the at sign holds of those of the parts. -/
theorem all_parts {i : Identifier} (h : i.body.all p = true) :
    i.source?.all (·.all p) = true ∧ i.field?.all (·.all p) = true ∧
      i.id?.all (·.all p) = true ∧ i.shortId?.all (·.all p) = true := by
  cases i with
  | display source field shortId =>
    simp only [body, List.all_append, List.all_cons, Bool.and_eq_true] at h
    exact ⟨h.1, h.2.2.1, rfl, all_of_optionalPart h.2.2.2⟩
  | system id field =>
    simp only [body, List.all_append, Bool.and_eq_true] at h
    exact ⟨rfl, all_of_optionalPart h.2.2, h.2.1, rfl⟩
  | legacy kind id field =>
    simp only [body, List.all_append, List.all_cons, Bool.and_eq_true] at h
    exact ⟨rfl, h.2.2.2.2.2.1, h.2.2.2.1, rfl⟩

theorem all_body_display (hdot : p '.' = true) (hmark : p '#' = true) {source field shortId : Text}
    (hsource : source.all p = true) (hfield : field.all p = true) (hshort : shortId.all p = true) :
    (display source field (some shortId)).body.all p = true := by
  have hopt : (optionalPart '#' (some shortId)).all p = true := by
    cases shortId with
    | nil => rfl
    | cons c t =>
      rw [optionalPart, List.all_cons, hshort, hmark]
      rfl
  rw [body, List.all_append, List.all_cons, List.all_append, hsource, hfield, hopt, hdot]
  rfl

end Identifier

/-! ## Tags -/

namespace Renderer

variable {r : Renderer} {i : Identifier} (hi : i.body.all p = true)
  (hfound : ∀ x, r.find i = some x →
    x.id.all p = true ∧ x.sourceName.all p = true ∧ x.field.all p = true)
include hi hfound

theorem all_field_info : (r.info i).field.all p = true := by
  have hfield := (Identifier.all_parts hi).2.1
  rw [info]
  split
  · next x hx =>
    dsimp only
    split
    · next hf => rwa [hf] at hfield
    · exact (hfound x hx).2.2
  · exact all_getD hfield rfl

/-- What a tag tells are characters of the identifier and of its record, with marks in the label. -/
theorem all_info (hdot : p '.' = true) (hmark : p '#' = true) :
    (r.info i).sourceName.all p = true ∧ (r.info i).field.all p = true ∧
      (r.info i).id.all p = true ∧ ∃ t, (r.info i).label = '@' :: t ∧ t.all p = true := by
  obtain ⟨hsource, -, hid, -⟩ := Identifier.all_parts hi
  have hfield := all_field_info hi hfound
  rw [info] at hfield ⊢
  split at hfield
  · next x hx =>
    obtain ⟨hxid, hxsource, -⟩ := hfound x hx
    refine ⟨all_getD hsource hxsource, hfield, hxid, ?_⟩
    dsimp only
    split
    · exact ⟨_, rfl, hi⟩
    · exact ⟨_, rfl, Identifier.all_body_display hdot hmark hxsource hfield (all_upTo hxid)⟩
  · exact ⟨all_getD hsource rfl, hfield, all_getD hid rfl, _, rfl, hi⟩

/-- The values of a tag are the identifier, what the tag tells, and words of small letters and
hyphens. -/
theorem all_value (hdot : p '.' = true) (hmark : p '#' = true)
    (hnamed : ∀ c, isNamed c = true → p c = true) :
    ∀ a ∈ r.attributes i, a.value = i.text ∨ a.value.all p = true := by
  obtain ⟨hsource, hfield, hid, -⟩ := all_info hi hfound hdot hmark
  have hword : ∀ t : Text, t.all isNamed = true → t.all p = true := fun t ht =>
    List.all_eq_true.2 fun c hc => hnamed c (List.all_eq_true.1 ht c hc)
  have hkind : (r.info i).kind.word.toList.all isNamed = true := by
    cases (r.info i).kind <;> decide
  simp only [attributes, List.forall_mem_cons]
  refine ⟨.inl trivial, .inr hsource, .inr (hword _ hkind), .inr rfl, .inl trivial,
    .inr (hword _ hkind), .inr hsource, .inr hfield, .inr hid, .inr ?_, .inr (hword _ (by decide)),
    .inr (hword _ (by decide)), fun _ h => absurd h List.not_mem_nil⟩
  split
  · next hs =>
    have hparts := (Identifier.all_parts hi).2.2.2
    rwa [hs] at hparts
  · exact all_upTo hid

end Renderer

end

namespace Renderer

/-- The records that the renderer looks up are plain. -/
def Plain (r : Renderer) : Prop := ∀ s ∈ r.records, s.Plain

theorem plain_of_find {r : Renderer} (hr : r.Plain) {i : Identifier} {x : Record}
    (hx : r.find i = some x) : x.Plain := by
  obtain ⟨s, hs, hfound⟩ := Option.bind_eq_some_iff.1 hx
  exact hr s hs x (Snapshot.mem_of_resolve hfound)

/-- The tag of an identifier is plain. -/
theorem plain_tag {r : Renderer} (hr : r.Plain) {i : Identifier} (hi : i.text.all isPlain = true) :
    ∀ t ∈ (r.piece (.identifier i)).node.strings, t.all isPlain = true := by
  have hbody : i.body.all isPlain = true := by
    rw [Identifier.text, List.all_cons, Bool.and_eq_true] at hi
    exact hi.2
  have hfound : ∀ x, r.find i = some x → x.id.all isPlain = true ∧
      x.sourceName.all isPlain = true ∧ x.field.all isPlain = true := fun x hx => by
    obtain ⟨hid, hsource, hfield, -⟩ := Record.plain_iff.1 (plain_of_find hr hx)
    exact ⟨hid, hsource, hfield⟩
  obtain ⟨-, -, -, t, hlabel, ht⟩ := all_info hbody hfound (by decide) (by decide)
  have hstrings : (r.piece (.identifier i)).node.strings =
      (r.attributes i).map Attribute.value ++ [(r.info i).label] := rfl
  rw [hstrings, List.forall_mem_append, List.forall_mem_map, List.forall_mem_singleton]
  refine ⟨fun a ha => ?_, ?_⟩
  · have hvalues := all_value hbody hfound (by decide) (by decide) fun _ => isPlain_of_isNamed
    rcases hvalues a ha with heq | hvalue
    · rwa [heq]
    · exact hvalue
  · rw [hlabel, List.all_cons, ht]
    decide

end Renderer

/-! ## Documents -/

theorem Renderer.plain_of_mem_lines {raw t : Text}
    (hraw : (Text.unifyLineEnds raw).all isPlain = true)
    (ht : t ∈ Text.lines (separate (Text.unifyLineEnds raw))) : t.all isPlain = true := by
  refine all_of_subset (subset_joinLines t ht) ?_
  rw [Text.joinLines_lines]
  exact all_separateAfter (by decide) none hraw

/-- **A renderer writes a plain document** for a plain text and plain records. -/
theorem Renderer.plain_paragraphs {r : Renderer} (hr : r.Plain) {raw : Text}
    (hraw : (Text.unifyLineEnds raw).all isPlain = true) : Markup.Plain (r.paragraphs raw) := by
  rw [r.paragraphs_eq, plain_map_paragraph]
  intro l hl
  obtain ⟨t, ht, rfl⟩ := List.mem_map.1 hl
  have hplain := plain_of_mem_lines hraw ht
  refine Line.forall_mem_joined (P := fun p => ∀ t ∈ p.node.strings, t.all isPlain = true) ?_ ?_
  · intro t u ht hu
    have htext : ∀ v : Text, (Piece.text v).node.strings = [v] := fun _ => rfl
    rw [htext, List.forall_mem_singleton] at ht hu ⊢
    rw [List.all_append, ht, hu]
    rfl
  · intro p hp
    obtain ⟨s, hs, rfl⟩ := List.mem_map.1 hp
    have htext : s.text.all isPlain = true := all_of_subset (subset_of_mem_tokens hs) hplain
    cases s with
    | char c => exact List.forall_mem_singleton.2 htext
    | identifier i => exact r.plain_tag hr htext

end LiveText
