import Mathlib.Data.List.Forall2
import LiveText.Proofs.Document.Plain
import LiveText.Proofs.Identifier.Parsing
import LiveText.Proofs.Identifier.Pieces
import LiveText.Proofs.Identifier.Replacing

/-!
# The tags of a document made of text

A renderer takes a text apart line by line, and writes a tag for each identifier that it finds in a
line. The tags of the document that is read back are those of the identifiers of the text as a whole,
one for each and in their order: each tells which identifier it was made for, which record that refers
to, and what a reader is shown (`Renderer.Mirrors`).

## What is here

* `shownId` and `shownLabel` say what is to be told of an identifier.
* `variableTags_readBack`: the tags of the paragraphs that are read back.
* **`render_mirrors_occurrences`**: paragraphs, tags and labels of a document that was rendered.
-/

set_option autoImplicit false

namespace LiveText

open Markup

/-! ## Tags of a fragment -/

/-- The variable tags of a fragment, each one before those in it. -/
def variableTags (ns : List Node) : List Element := (elements ns).filter Element.isVariable

theorem elements_eq_flatMap (ns : List Node) : elements ns = ns.flatMap Node.elements := by
  induction ns with
  | nil => rfl
  | cons n ns ih => rw [elements, ih, List.flatMap_cons]

theorem variableTags_eq_flatMap (ns : List Node) :
    variableTags ns = ns.flatMap fun n => variableTags [n] := by
  have hsingle : ∀ n : Node, variableTags [n] = n.elements.filter Element.isVariable := fun n => by
    rw [variableTags, elements, elements, List.append_nil]
  rw [variableTags, elements_eq_flatMap, List.filter_flatMap]
  exact List.flatMap_congr fun n _ => (hsingle n).symm

/-- The identifiers of lines are those of each line. -/
theorem identifiersOf_joinLines (ls : List Text) :
    identifiersOf (tokens (Text.joinLines ls)) = ls.flatMap fun l => identifiersOf (tokens l) := by
  induction ls with
  | nil => exact congrArg identifiersOf (tokensAfter_nil none)
  | cons l ls ih =>
    cases ls with
    | nil => exact (List.append_nil _).symm
    | cons m ls =>
      rw [Text.joinLines_cons_cons, LiveText.tokens_line, identifiersOf_append, List.flatMap_cons]
      exact congrArg (identifiersOf (tokens l) ++ ·) ih

/-- The node is the paragraph of a line. -/
def IsParagraph (l : Text) (n : Node) : Prop :=
  ∃ children, n = .element paragraphName [] children ∧
    walkText Element.identifierText children = l

namespace Renderer

/-! ## What is to be told of an identifier -/

/-- The id that is told of an identifier: that of its record, or else the one that it names itself, if
it names one. -/
def shownId (r : Renderer) (i : Identifier) : Text :=
  match r.find i with
  | some found => found.id
  | none => i.id?.getD []

/-- What a reader is shown of an identifier: a system identifier in the display form of its record,
anything else as it is written. -/
def shownLabel (r : Renderer) (i : Identifier) : Text :=
  match r.find i with
  | some found =>
    if i.isDisplay then i.text
    else
      let shortId := Text.upTo r.shortIdLength found.id
      (Identifier.display found.sourceName (i.field?.getD found.field) (some shortId)).text
  | none => i.text

/-- A tag tells what is to be told of an identifier that was found. -/
structure Mirrors (r : Renderer) (e : Element) (o : Occurrence) : Prop where
  identifierText : e.identifierText = o.identifier.text
  id : Attribute.find? "data-id".toList e.attributes = some (r.shownId o.identifier)
  label : e.text = r.shownLabel o.identifier

/-- A field that an identifier names is not empty. -/
theorem field?_ne_nil {i : Identifier} (hi : i.WellFormed) : i.field? ≠ some [] := by
  intro h
  cases i with
  | display source field shortId => exact hi.2.1.1 (Option.some.inj h)
  | system id field =>
    rw [Identifier.field?] at h
    exact (hi.2 [] h).1 rfl
  | legacy kind id field => exact hi.2.2.1 (Option.some.inj h)

theorem label_info (r : Renderer) {i : Identifier} (hi : i.WellFormed) :
    (r.info i).label = r.shownLabel i := by
  rw [info, shownLabel]
  cases r.find i with
  | none => rfl
  | some found =>
    have hfield := field?_ne_nil hi
    cases hf : i.field? with
    | none => rfl
    | some f =>
      cases f with
      | nil => exact absurd hf hfield
      | cons c f => rfl

theorem id_info (r : Renderer) (i : Identifier) : (r.info i).id = r.shownId i := by
  rw [info, shownId]
  cases r.find i with
  | none => rfl
  | some found => rfl

/-! ## The tags that are read back -/

/-- The tag of an identifier as it is read back. -/
def readTag (r : Renderer) (i : Identifier) : Element :=
  ⟨spanName, ordered (r.attributes i), [.prose (r.info i).label]⟩

theorem mirrors_readTag (r : Renderer) {o : Occurrence} (hi : o.identifier.WellFormed) :
    r.Mirrors (r.readTag o.identifier) o := by
  refine ⟨r.identifierText_tag hi _, ?_, ?_⟩
  · rw [readTag, find?_ordered (r.nodup_names_attributes _),
      find?_eq_some_iff (r.nodup_names_attributes _), ← id_info]
    simp [attributes]
  · rw [← r.label_info hi]
    exact List.append_nil _

/-- The tags in a piece of a line. -/
theorem variableTags_piece (r : Renderer) (t : LiveText.Token) :
    variableTags [(r.piece t).ordered.node] = (identifiersOf [t]).map r.readTag := by
  cases t with
  | char c => rfl
  | identifier i => exact List.filter_cons_of_pos (r.marksVariable_tag i)

/-- **The tags of a line** are those of its identifiers. -/
theorem variableTags_line (r : Renderer) (t : Text) :
    variableTags [readBack (r.line t)] = (identifiersOf (LiveText.tokens t)).map r.readTag := by
  have hparagraph : ∀ children : List Node,
      variableTags [.element Markup.paragraphName [] children] = variableTags children := by
    intro children
    have hplain : ¬Element.isVariable ⟨Markup.paragraphName, [], children⟩ = true :=
      Bool.false_ne_true
    rw [variableTags, elements, elements, List.append_nil, Node.elements,
      List.filter_cons_of_neg hplain]
    rfl
  calc variableTags [readBack (r.line t)]
      = (r.line t).flatMap fun p => variableTags [p.ordered.node] := by
        rw [readBack, paragraph, hparagraph, variableTags_eq_flatMap, joined_line, List.map_map,
          List.flatMap_map]
        rfl
    _ = (LiveText.tokens t).flatMap fun s => variableTags [(r.piece s).ordered.node] := by
        rw [line, Line.flatMap_joined rfl fun _ _ => rfl, List.flatMap_map]
    _ = (LiveText.tokens t).flatMap fun s => (identifiersOf [s]).map r.readTag :=
        List.flatMap_congr fun s _ => r.variableTags_piece s
    _ = (identifiersOf (LiveText.tokens t)).map r.readTag := by
        rw [← List.map_flatMap, ← identifiersOf_eq_flatMap]

/-- **The tags of a document** are those of the identifiers that are found in its text. -/
theorem variableTags_readBack (r : Renderer) (raw : Text) :
    variableTags ((r.lines raw).map readBack) =
      (occurrences (separate (Text.unifyLineEnds raw))).map fun o => r.readTag o.identifier := by
  have hidentifiers := identifiersOf_joinLines (Text.lines (separate (Text.unifyLineEnds raw)))
  rw [Text.joinLines_lines] at hidentifiers
  calc variableTags ((r.lines raw).map readBack)
      = (Text.lines (separate (Text.unifyLineEnds raw))).flatMap fun t =>
          (identifiersOf (LiveText.tokens t)).map r.readTag := by
        rw [variableTags_eq_flatMap, lines, List.map_map, List.flatMap_map]
        exact List.flatMap_congr fun t _ => r.variableTags_line t
    _ = (occurrences (separate (Text.unifyLineEnds raw))).map fun o => r.readTag o.identifier := by
        rw [← List.map_flatMap, ← hidentifiers, ← map_identifier_occurrencesFrom 0, List.map_map]
        rfl

theorem isParagraph_readBack (r : Renderer) (t : Text) : IsParagraph t (readBack (r.line t)) := by
  refine ⟨_, rfl, ?_⟩
  have hmarked : ∀ p ∈ (r.line t).joined.map Piece.ordered, p.Marked := by
    rw [joined_line]
    exact List.forall_mem_map.2 (r.marked_line t)
  have hwalk := walkAll_line Element.identifierText hmarked false (w := {}) rfl
  rw [r.said_line] at hwalk
  exact hwalk

/-- **What a reader is shown** of the paragraphs that are read back is the text with a label in the
place of each identifier. -/
theorem walkText_text_readBack (r : Renderer) (raw : Text) :
    walkText Element.text ((r.lines raw).map readBack) =
      substitute r.shownLabel (LiveText.tokens (separate (Text.unifyLineEnds raw))) := by
  have hmarked : ∀ l ∈ r.lines raw, ∀ p ∈ l, p.ordered.Marked := by
    intro l hl
    obtain ⟨t, -, rfl⟩ := List.mem_map.1 hl
    exact r.marked_line t
  have hsaid : ∀ t, Line.said Element.text ((r.line t).joined.map Piece.ordered) =
      substitute r.shownLabel (LiveText.tokens t) := fun t => r.said_line_eq fun i hi =>
    (List.append_nil _).trans (r.label_info ((reading_tokens t).wellFormed hi))
  calc walkText Element.text ((r.lines raw).map readBack)
      = Text.joinLines ((Text.lines (separate (Text.unifyLineEnds raw))).map fun t =>
          substitute r.shownLabel (LiveText.tokens t)) := by
        rw [walkText_map_readBack Element.text hmarked, lines, List.map_map]
        exact congrArg Text.joinLines (List.map_congr_left fun t _ => hsaid t)
    _ = substitute r.shownLabel (LiveText.tokens (separate (Text.unifyLineEnds raw))) := by
        rw [← substitute_joinLines, Text.joinLines_lines]

end Renderer

/-! ## Documents -/

/-- **The document that is read back mirrors the text that it was made of**, whatever reader it is
read back by: it has a paragraph for each line, unless the text is empty; its variable tags are there
for the identifiers of the text, one for each and in their order; and a reader is shown the text with
the labels of the tags in the places of the identifiers. -/
theorem render_mirrors_occurrences {parse : Text → List Node} (hparse : ReadsBack parse)
    (r : Renderer) (raw : Text) (hplain : Plain (r.paragraphs raw)) :
    let s := separate (Text.unifyLineEnds raw)
    let ns := parse (r.render raw)
    (raw = [] → ns = []) ∧ (raw ≠ [] → List.Forall₂ IsParagraph (Text.lines s) ns) ∧
      List.Forall₂ r.Mirrors (variableTags ns) (occurrences s) ∧
      walkText Element.text ns = substitute r.shownLabel (LiveText.tokens s) := by
  intro s ns
  cases raw with
  | nil =>
    have hnil : ns = [] := hparse [] (by simp) (by simp [Plain, strings])
    have htokens : LiveText.tokens s = [] :=
      (congrArg LiveText.tokens (separateAfter_nil none)).trans (tokensAfter_nil none)
    refine ⟨fun _ => hnil, fun h => absurd rfl h, ?_, ?_⟩
    · rw [hnil, occurrences, htokens]
      exact .nil
    · rw [hnil, htokens]
      rfl
  | cons c cs =>
    have hns : ns = (r.lines (c :: cs)).map readBack := by
      rw [r.paragraphs_eq] at hplain
      exact (congrArg (fun d => parse (write d)) (r.paragraphs_eq _)).trans
        (hparse _ (r.proper_lines _) hplain)
    refine ⟨fun h => absurd h (List.cons_ne_nil c cs), fun _ => ?_, ?_, ?_⟩
    · rw [hns, Renderer.lines, List.map_map, List.forall₂_map_right_iff, List.forall₂_same]
      exact fun t _ => r.isParagraph_readBack t
    · rw [hns, r.variableTags_readBack, List.forall₂_map_left_iff, List.forall₂_same]
      exact fun o ho => r.mirrors_readTag (wellFormed_of_mem_occurrences ho)
    · rw [hns]
      exact r.walkText_text_readBack (c :: cs)

/-- A display identifier with a system identifier behind it, and a legacy identifier that refers to
nothing in the second line. -/
theorem render_mirrors_occurrences_forms :
    let hp : Record := { id := "a1b2c".toList, sourceName := "npc".toList, field := "hp".toList }
    let r : Renderer := { records := some (Snapshot.ofRecords [hp]) }
    let raw := "HP: @npc.hp@gv_a1b2c_hp\r\n@gv_npc_ff_mp-=".toList
    let ns := readWith (fun _ => true) (r.render raw)
    let shown : Identifier := .display hp.sourceName hp.field none
    let stored : Identifier := .system hp.id (some hp.field)
    let old : Identifier := .legacy "npc".toList "ff".toList "mp".toList
    Plain (r.paragraphs raw) ∧ raw ≠ [] ∧ ns.length = 2 ∧
      List.Forall₂ r.Mirrors (variableTags ns) [⟨shown, 4⟩, ⟨stored, 12⟩, ⟨old, 25⟩] ∧
      r.shownId shown = hp.id ∧ r.shownId old = "ff".toList ∧
      r.shownLabel stored = "@npc.hp#a1b2".toList ∧
      walkText Element.text ns = "HP: @npc.hp @npc.hp#a1b2\n@gv_npc_ff_mp-=".toList := by
  intro hp r raw ns shown stored old
  have hhp : hp.Plain := by decide +kernel
  have hr : r.Plain := by
    rintro _ ⟨⟩ x hx
    exact List.mem_singleton.1 hx ▸ hhp
  have hplain : Plain (r.paragraphs raw) := Renderer.plain_paragraphs hr (by decide +kernel)
  have hoccurrences : occurrences (separate (Text.unifyLineEnds raw)) =
      [⟨shown, 4⟩, ⟨stored, 12⟩, ⟨old, 25⟩] := by decide +kernel
  have htokens : LiveText.tokens (separate (Text.unifyLineEnds raw)) =
      "HP: ".toList.map .char ++ .identifier shown :: .char ' ' :: .identifier stored ::
        .char '\n' :: [.identifier old] := by decide +kernel
  have hfound : r.find shown = some hp := by
    simp only [Renderer.find, r, Option.bind_some, Snapshot.resolve, Snapshot.recordsBySourceField_eq]
    decide +kernel
  have hid : ∀ id field : Text, id ≠ [] → field ≠ [] → r.find (.system id (some field)) =
      (Snapshot.ofRecords [hp]).findByIdAndField id field := fun id field =>
    Snapshot.findBySystemId_of_ne_nil _
  have hfound' : r.find stored = some hp := by
    rw [hid _ _ (by decide) (by decide), Snapshot.findByIdAndField_eq]
    decide +kernel
  have hnone : r.find old = none := by
    refine (hid "ff".toList "mp".toList (by decide) (by decide)).trans ?_
    rw [Snapshot.findByIdAndField_eq]
    decide +kernel
  have hlabel : r.shownLabel stored = "@npc.hp#a1b2".toList := by
    simp only [Renderer.shownLabel, hfound']
    decide +kernel
  have hlabels : r.shownLabel shown = shown.text ∧ r.shownLabel old = old.text := by
    rw [Renderer.shownLabel, Renderer.shownLabel, hfound, hnone]
    exact ⟨rfl, rfl⟩
  have hids : r.shownId shown = hp.id ∧ r.shownId old = "ff".toList := by
    rw [Renderer.shownId, Renderer.shownId, hfound, hnone]
    exact ⟨rfl, rfl⟩
  obtain ⟨-, hlines, htags, htext⟩ := render_mirrors_occurrences readsBack_keeping r raw hplain
  have hne : raw ≠ [] := by decide
  refine ⟨hplain, hne, (hlines hne).length_eq.symm.trans (by decide +kernel), hoccurrences ▸ htags,
    hids.1, hids.2, hlabel, htext.trans ?_⟩
  rw [htokens, substitute_append, substitute_chars]
  simp only [substitute, List.flatMap_cons, List.flatMap_nil, hlabel, hlabels]
  decide +kernel

/-- The document of the empty text has no paragraph for its one line. -/
theorem render_nil_without_paragraph :
    let r : Renderer := {}
    ReadsBack (readWith fun _ => true) ∧ Plain (r.paragraphs []) ∧
      ¬List.Forall₂ IsParagraph (Text.lines (separate (Text.unifyLineEnds [])))
        (readWith (fun _ => true) (r.render [])) := by
  intro r
  have hlines : (Text.lines (separate (Text.unifyLineEnds []))).length = 1 := by decide +kernel
  have hnodes : (readWith (fun _ => true) (r.render [])).length = 0 := by decide +kernel
  refine ⟨readsBack_keeping, by decide +kernel, fun h => ?_⟩
  rw [← h.length_eq, hlines] at hnodes
  exact Nat.one_ne_zero hnodes

end LiveText
