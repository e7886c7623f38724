import LiveText.Document.Resolution
import LiveText.Proofs.Document.Plain
import LiveText.Proofs.Identifier.Pieces

/-!
# Resolving a document and resolving its text

The document that a renderer writes for a text can be resolved, and so can the text itself. A reader
sees the same in both cases (`plainText_resolve_render`), although the document is resolved in pieces:

* an identifier is looked up from the attributes of its tag alone, and its text says which one it is
  (`Snapshot.valueOfTag_tag`);
* a text between two tags is resolved on its own, and nothing must be found in it. There might be
  something to find where the identifier in front of it is gone; but the text was separated, so what
  could start an identifier there stands behind a space (`Renderer.wrote_line`).
-/

set_option autoImplicit false

namespace LiveText

open Markup

/-! ## The pieces of a line -/

namespace Renderer

/-- What a renderer writes for tokens: the tags of their identifiers, and texts in which there is no
identifier. -/
inductive Wrote (r : Renderer) (ts : List LiveText.Token) : Piece → Prop
  | text {t : Text} (h : LiveText.tokens t = t.map .char) : Wrote r ts (.text t)
  | tag {i : Identifier} (h : .identifier i ∈ ts) : Wrote r ts (r.piece (.identifier i))

theorem Wrote.mono {r : Renderer} {us ts : List LiveText.Token} {p : Piece} (h : r.Wrote us p)
    (hsub : us ⊆ ts) : r.Wrote ts p := by
  cases h with
  | text h => exact .text h
  | tag h => exact .tag (hsub h)

/-- The text in front of the tokens that are left is kept open: characters are put behind it until an
identifier closes it. -/
theorem wrote_joined (r : Renderer) {ts : List LiveText.Token} {t : Text}
    (h : Reading none (t.map .char ++ ts)) (hgap : NoGap ts) :
    ∀ p ∈ Line.joined (.text t :: ts.map r.piece), r.Wrote ts p := by
  have closed : ∀ {t : Text} {us : List LiveText.Token}, Reading none (t.map .char) →
      ∀ p ∈ textPiece t, r.Wrote us p := by
    intro t us ht
    cases t with
    | nil => simp [textPiece]
    | cons c t => exact List.forall_mem_singleton.2 (.text ht.tokens_chars)
  induction ts generalizing t with
  | nil =>
    rw [List.append_nil] at h
    rw [List.map_nil, Line.joined_text_nil]
    exact closed h
  | cons s ts ih =>
    cases s with
    | char c =>
      have hopen : Reading none ((t ++ [c]).map .char ++ ts) := by simpa using h
      rw [List.map_cons, piece, Line.joined_text_text]
      exact fun p hp => (ih hopen hgap p hp).mono (List.subset_cons_self _ _)
    | identifier i =>
      have hclosed : Reading none (t.map .char) := h.left (i.stops_text_append _)
      have hrest : Reading none ts := by
        cases h.right with
        | identifier _ _ rest => exact rest.behind hgap.1
      rw [List.map_cons, piece, Line.joined_text_tag]
      intro p hp
      rcases List.mem_append.1 hp with hp | hp
      · exact closed hclosed p hp
      rcases List.mem_cons.1 hp with rfl | hp
      · exact .tag List.mem_cons_self
      · exact (ih (t := []) hrest hgap.2 p hp).mono (List.subset_cons_self _ _)

/-- **Between the tags of a line no identifier is left.** -/
theorem wrote_line (r : Renderer) {t : Text} (hgap : NoGap (LiveText.tokens t)) :
    ∀ p ∈ r.line t, r.Wrote (LiveText.tokens t) p :=
  r.wrote_joined (t := []) (reading_tokens t) hgap

end Renderer

namespace Snapshot

/-! ## Resolving pieces -/

theorem resolveIn_of_tokens_chars (s : Snapshot) {t : Text}
    (h : LiveText.tokens t = t.map .char) : s.resolveIn t = t := by
  rw [resolveIn, separate_of_tokens_chars h, h, substitute_chars]

/-- A tag has the value of the identifier that it was made for. -/
theorem valueOfTag_tag (s : Snapshot) (r : Renderer) {i : Identifier} (hi : i.WellFormed)
    (children : List Node) :
    s.valueOfTag ⟨spanName, ordered (r.attributes i), children⟩ = s.valueFor i := by
  have hfound : s.resolveText i.text = s.resolve i := by
    rw [resolveText, Identifier.parse?_text hi, Option.bind_some]
  rw [valueOfTag, r.identifierText_tag hi, hfound]
  cases h : s.resolve i with
  | none => simp only [valueFor, h]
  | some x => simp only [valueFor, h]

/-- What stands for a piece in a resolved document. -/
def resolvedPiece (s : Snapshot) : Piece → Piece
  | .text t => .text t
  | .tag as label => .text (s.valueOfTag ⟨spanName, as, [.prose label]⟩)

/-- What a paragraph that was read back is resolved to. -/
def resolvedLine (s : Snapshot) (l : Line) : Line :=
  (l.joined.map Piece.ordered).map s.resolvedPiece

theorem resolveNodes_eq_map (s : Snapshot) (ns : List Node) :
    s.resolveNodes ns = ns.map s.resolveNode := by
  induction ns with
  | nil => rfl
  | cons n ns ih => rw [resolveNodes, ih, List.map_cons]

theorem resolveNode_piece (s : Snapshot) {r : Renderer} {ts : List LiveText.Token} {p : Piece}
    (hp : r.Wrote ts p) : s.resolveNode p.ordered.node = (s.resolvedPiece p.ordered).node := by
  cases hp with
  | @text t h => exact if_pos (s.resolveIn_of_tokens_chars h)
  | @tag i h => exact if_pos (r.marksVariable_tag i)

/-- A paragraph that was read back is resolved to a paragraph of texts. -/
theorem resolveNode_readBack (s : Snapshot) (r : Renderer) {t : Text}
    (hgap : NoGap (LiveText.tokens t)) :
    s.resolveNode (readBack (r.line t)) = paragraph (s.resolvedLine (r.line t)) := by
  have hchildren : s.resolveNodes ((r.line t).map Piece.ordered |>.map Piece.node) =
      ((r.line t).map Piece.ordered |>.map s.resolvedPiece).map Piece.node := by
    simp only [resolveNodes_eq_map, List.map_map]
    exact List.map_congr_left fun p hp => s.resolveNode_piece (r.wrote_line hgap p hp)
  rw [readBack, resolvedLine, r.joined_line, paragraph, resolveNode, if_neg (by decide), hchildren]
  rfl

/-- What a resolved line says does not depend on the labels of tags, since there are none. -/
theorem said_resolvedLine (s : Snapshot) (label : Element → Text) (l : Line) :
    Line.said label (s.resolvedLine l) = Line.said s.valueOfTag (l.joined.map Piece.ordered) := by
  rw [Line.said, Line.said, resolvedLine, List.flatMap_map]
  refine List.flatMap_congr fun p _ => ?_
  cases p with
  | text t => rfl
  | tag as label => rfl

/-! ## Resolving documents -/

section
variable (s : Snapshot) (r : Renderer) (raw : Text)

/-- The paragraphs of a resolved document. -/
def resolvedLines : List Line := (r.lines raw).map s.resolvedLine

theorem resolveNodes_readBack :
    s.resolveNodes ((r.lines raw).map readBack) = (s.resolvedLines r raw).map paragraph := by
  rw [resolveNodes_eq_map, resolvedLines, List.map_map, List.map_map]
  refine List.map_congr_left fun l hl => ?_
  obtain ⟨t, ht, rfl⟩ := List.mem_map.1 hl
  exact s.resolveNode_readBack r (noGap_of_mem_lines ht)

/-- In a resolved document there are only texts. -/
theorem forall_mem_resolvedLines {P : Piece → Prop} (htext : ∀ t, P (.text t)) :
    ∀ l ∈ s.resolvedLines r raw, ∀ p ∈ l, P p := by
  intro l hl p hp
  obtain ⟨m, -, rfl⟩ := List.mem_map.1 hl
  obtain ⟨q, -, rfl⟩ := List.mem_map.1 hp
  cases q with
  | text t => exact htext t
  | tag as label => exact htext _

/-- **The text of a resolved document** is the resolved text. -/
theorem walkText_resolvedLines :
    walkText Element.text ((s.resolvedLines r raw).map readBack) =
      s.resolveIn (Text.unifyLineEnds raw) := by
  have hmarked : ∀ l ∈ s.resolvedLines r raw, ∀ p ∈ l, p.ordered.Marked :=
    s.forall_mem_resolvedLines r raw fun _ => trivial
  have hsaid : ∀ t, Line.said Element.text
      ((s.resolvedLine (r.line t)).joined.map Piece.ordered) =
        substitute s.valueFor (LiveText.tokens t) := by
    intro t
    rw [Line.said_map_ordered, Line.said_joined, said_resolvedLine]
    exact r.said_line_eq fun i hi => s.valueOfTag_tag r ((reading_tokens t).wellFormed hi) _
  calc walkText Element.text ((s.resolvedLines r raw).map readBack)
      = Text.joinLines ((s.resolvedLines r raw).map fun l =>
          Line.said Element.text (l.joined.map Piece.ordered)) :=
        walkText_map_readBack Element.text hmarked
    _ = Text.joinLines ((Text.lines (separate (Text.unifyLineEnds raw))).map fun t =>
          substitute s.valueFor (LiveText.tokens t)) := by
        rw [resolvedLines, Renderer.lines, List.map_map, List.map_map]
        exact congrArg Text.joinLines (List.map_congr_left fun t _ => hsaid t)
    _ = s.resolveIn (Text.unifyLineEnds raw) := by
        rw [← substitute_joinLines, Text.joinLines_lines, resolveIn]

end

/-! ## What is resolved is plain -/

section
variable {s : Snapshot} (hs : s.Plain)
include hs

theorem plain_valueFor {i : Identifier} (hi : i.text.all isPlain = true) :
    (s.valueFor i).all isPlain = true := by
  rw [valueFor]
  split
  · next x hx => exact (Record.plain_iff.1 (hs x (mem_of_resolve hx))).2.2.2
  · exact hi

theorem plain_resolvedPiece {r : Renderer} {t : Text} (ht : t.all isPlain = true) {p : Piece}
    (hp : r.Wrote (LiveText.tokens t) p) (hplain : ∀ u ∈ p.node.strings, u.all isPlain = true) :
    ∀ u ∈ (s.resolvedPiece p.ordered).node.strings, u.all isPlain = true := by
  cases hp with
  | text h => exact hplain
  | @tag i hi =>
    have hvalue := s.valueOfTag_tag r ((reading_tokens t).wellFormed hi) [.prose (r.info i).label]
    have hstrings : (s.resolvedPiece (r.piece (.identifier i)).ordered).node.strings =
        [s.valueFor i] := congrArg (fun v => [v]) hvalue
    rw [hstrings, List.forall_mem_singleton]
    exact plain_valueFor hs (all_of_subset (subset_of_mem_tokens hi) ht)

theorem plain_resolvedLines {r : Renderer} {raw : Text}
    (hraw : (Text.unifyLineEnds raw).all isPlain = true) (hplain : Markup.Plain (r.paragraphs raw)) :
    Markup.Plain ((s.resolvedLines r raw).map paragraph) := by
  rw [r.paragraphs_eq, plain_map_paragraph] at hplain
  rw [plain_map_paragraph]
  intro l hl p hp
  obtain ⟨m, hm, rfl⟩ := List.mem_map.1 hl
  obtain ⟨t, ht, rfl⟩ := List.mem_map.1 hm
  rw [resolvedLine, r.joined_line, List.map_map, List.mem_map] at hp
  obtain ⟨q, hq, rfl⟩ := hp
  exact plain_resolvedPiece hs (Renderer.plain_of_mem_lines hraw ht)
    (r.wrote_line (noGap_of_mem_lines ht) q hq) (hplain _ hm q hq)

end

/-! ## The two ways agree -/

/-- The two ways agree for a reader that gives back the document and the resolved document. -/
theorem walkText_resolve_of_readBack {parse : Text → List Node} (r : Renderer) (s : Snapshot)
    (raw : Text) (hnil : parse [] = [])
    (hwritten : parse (write ((r.lines raw).map paragraph)) = (r.lines raw).map readBack)
    (hresolved : parse (write ((s.resolvedLines r raw).map paragraph)) =
      (s.resolvedLines r raw).map readBack) :
    walkText Element.text (parse (write (s.resolveNodes (parse (r.render raw))))) =
      s.resolveIn (Text.unifyLineEnds raw) := by
  cases raw with
  | nil =>
    -- the document of the empty text has no paragraph at all
    calc walkText Element.text (parse (write (s.resolveNodes (parse (r.render [])))))
        = walkText Element.text (parse (write (s.resolveNodes []))) :=
          congrArg (fun ns => walkText Element.text (parse (write (s.resolveNodes ns)))) hnil
      _ = walkText Element.text [] := congrArg (walkText Element.text) hnil
      _ = s.resolveIn [] := (s.resolveIn_of_tokens_chars (tokensAfter_nil none)).symm
  | cons c cs =>
    rw [Renderer.render, if_neg (by simp), r.paragraphs_eq, hwritten, s.resolveNodes_readBack,
      hresolved, s.walkText_resolvedLines]

/-- **Resolving a document and resolving its text agree**, whatever reader the documents are read
back by: with `parse` in the place of `Markup.read`, the left side is the plain text of the resolved
document that was written for the raw text. -/
theorem plainText_resolve_render {parse : Text → List Node} (hparse : ReadsBack parse)
    {r : Renderer} (hr : r.Plain) {s : Snapshot} (hs : s.Plain) {raw : Text}
    (hraw : (Text.unifyLineEnds raw).all isPlain = true) :
    walkText Element.text (parse (write (s.resolveNodes (parse (r.render raw))))) =
      s.resolveIn (Text.unifyLineEnds raw) := by
  have hplain := Renderer.plain_paragraphs hr hraw
  have hresolved := plain_resolvedLines hs hraw hplain
  have hnil : parse (write []) = [] := hparse [] (by simp) (by simp [Markup.Plain, strings])
  rw [r.paragraphs_eq] at hplain
  exact walkText_resolve_of_readBack r s raw hnil (hparse _ (r.proper_lines raw) hplain)
    (hparse _ (s.forall_mem_resolvedLines r raw fun _ => trivial) hresolved)

/-- A value of two lines that looks like an identifier and like a tag, and an identifier that refers
to nothing. -/
theorem plainText_resolve_render_two_lines :
    let hp : Record :=
      { id := "a1b2".toList, sourceName := "npc".toList, field := "hp".toList
        value := "<1>\n@npc.hp".toList }
    let s := Snapshot.ofRecords [hp]
    let r : Renderer := { records := some s }
    let raw := "HP: @npc.hp@gv_a1b2_hp\r\n@npc.mp".toList
    r.Plain ∧ s.Plain ∧ (Text.unifyLineEnds raw).all isPlain = true ∧
      walkText Element.text (readWith (fun _ => true)
          (write (s.resolveNodes (readWith (fun _ => true) (r.render raw))))) =
        "HP: <1>\n@npc.hp <1>\n@npc.hp\n@npc.mp".toList := by
  intro hp s r raw
  have hs : s.Plain := by
    rintro x hx
    rw [List.mem_singleton.1 hx]
    decide +kernel
  have hr : r.Plain := by
    rintro _ ⟨⟩
    exact hs
  have hraw : (Text.unifyLineEnds raw).all isPlain = true := by decide +kernel
  refine ⟨hr, hs, hraw, ?_⟩
  rw [plainText_resolve_render readsBack_keeping hr hs hraw]
  have htokens : LiveText.tokens (separate (Text.unifyLineEnds raw)) =
      "HP: ".toList.map .char ++ .identifier (.display hp.sourceName hp.field none) :: .char ' ' ::
        .identifier (.system hp.id (some hp.field)) :: .char '\n' ::
          [.identifier (.display hp.sourceName "mp".toList none)] := by
    decide +kernel
  have hdisplay : s.resolve (.display hp.sourceName hp.field none) = some hp := by
    simp only [resolve, recordsBySourceField_eq]
    decide +kernel
  have hsystem : s.resolve (.system hp.id (some hp.field)) = some hp := by
    rw [resolve, findBySystemId_of_ne_nil s (by decide) (by decide), findByIdAndField_eq]
    decide +kernel
  have hnone : s.resolve (.display hp.sourceName "mp".toList none) = none := by
    simp only [resolve, recordsBySourceField_eq]
    decide +kernel
  rw [resolveIn, htokens, substitute_append, substitute_chars]
  simp only [substitute, List.flatMap_cons, List.flatMap_nil, valueFor, hdisplay, hsystem, hnone]
  decide +kernel

/-- The reader of this library shortens blank texts. Where there is none to shorten, neither in the
document nor in the resolved one, the two ways agree for it as well. -/
theorem plainText_resolveDocument_render {r : Renderer} (hr : r.Plain) {s : Snapshot} (hs : s.Plain)
    {raw : Text} (hraw : (Text.unifyLineEnds raw).all isPlain = true)
    (hkept : ∀ l ∈ r.lines raw, Kept keepsBlanks l.joined)
    (hkept' : ∀ l ∈ s.resolvedLines r raw, Kept keepsBlanks l.joined) :
    plainText (s.resolveDocument (r.render raw)) = s.resolveIn (Text.unifyLineEnds raw) := by
  have hplain := Renderer.plain_paragraphs hr hraw
  have hresolved := plain_resolvedLines hs hraw hplain
  rw [r.paragraphs_eq] at hplain
  exact walkText_resolve_of_readBack r s raw (readWith_nil keepsBlanks)
    (readWith_write (r.proper_lines raw) hplain hkept)
    (readWith_write (s.forall_mem_resolvedLines r raw fun _ => trivial) hresolved hkept')

end Snapshot
end LiveText
