import Mathlib.Data.List.Flatten
import LiveText.Proofs.Document.Layout
import LiveText.Proofs.Document.Plain

/-!
# Tags put into a document

A renderer puts tags into markup in place: each text of the document is taken apart on its own, and a
tag is written for each identifier that is found in it. The text of the document stays what it was, so
it has the identifiers that the markup had, whether there are tags for them or not
(`laid_outline_tagNodes`), and the tags are those that were there and one for each identifier that is
found in a text (`texts_tags_tagNodes`).

An identifier is left without a tag if it can only be found in the text as a whole. Apart from
identifiers that go on from one text to the next one, those are the identifiers that stand right behind
another one which hides them, since the texts are not separated before they are taken apart
(**`renderMarkup_tags_iff`**).

## What is here

* `flatMap_outline_tagNodes` is the induction over the nodes, for whatever is told of their outlines.
* `Regained` says what is asked of a document that was written and read back.
-/

set_option autoImplicit false

namespace LiveText

open Markup

/-! ## The outline of pieces -/

/-- The tag that an item is. -/
def Item.tags : Item → List Element
  | text _ => []
  | tag e => [e]
  | lineBreak => []
  | edge => []

/-- The variable tags of a fragment that count for its text. -/
def countedTags (ns : List Node) : List Element := (outline ns).flatMap Item.tags

/-- The identifiers that there are tags for once each text is taken apart on its own. -/
def Item.found : Item → List Text
  | text t => (occurrences t).map fun o => o.identifier.text
  | tag e => [e.identifierText]
  | lineBreak => []
  | edge => []

theorem outline_append (ns ms : List Node) : outline (ns ++ ms) = outline ns ++ outline ms := by
  induction ns with
  | nil => rfl
  | cons n ns ih => rw [List.cons_append, outline, outline, ih, List.append_assoc]

theorem outline_singleton (n : Node) : outline [n] = n.outline := List.append_nil _

/-- The item of a piece. -/
def Markup.Piece.item : Piece → Item
  | .text t => .text t
  | .tag as l => .tag ⟨spanName, as, [.prose l]⟩

theorem outline_map_node {l : Line} (hl : ∀ p ∈ l, p.Marked) :
    outline (l.map Piece.node) = l.map Piece.item := by
  induction l with
  | nil => rfl
  | cons p l ih =>
    obtain ⟨hp, hl⟩ := List.forall_mem_cons.1 hl
    have hitem : p.node.outline = [p.item] := by
      cases p with
      | text t => rfl
      | tag as label =>
        have hmarks : marksVariable as = true := hp
        rw [Piece.node, Node.outline, if_neg (by decide), if_pos hmarks]
        rfl
    rw [List.map_cons, outline, hitem, ih hl]
    rfl

namespace Renderer

section
variable (r : Renderer)

/-- The nodes for a text are texts and tags. -/
theorem outline_ofText (t : Text) : outline (r.ofText t) = (r.line t).map Piece.item := by
  rw [ofText, ofTokens_eq]
  exact outline_map_node fun p hp => (r.proper_marked_line t p hp).2

/-- **The nodes for a text make up the text.** -/
theorem laid_outline_ofText (t : Text) :
    laid Element.identifierText (outline (r.ofText t)) = t := by
  have hsaid : Line.said Element.identifierText (r.line t) = t := by
    rw [r.said_line_of fun i hi => r.identifierText_attributes ((reading_tokens t).wellFormed hi) _,
      substitute_text, written_tokens]
  rw [outline_ofText, laid, List.flatMap_map]
  refine (List.flatMap_congr fun p _ => ?_).trans hsaid
  cases p with
  | text u => rfl
  | tag as label => rfl

/-- **The tags of the nodes for a text** are those of its identifiers. -/
theorem texts_tags_ofText (t : Text) :
    (outline (r.ofText t)).flatMap (fun x => x.tags.map Element.identifierText) =
      (occurrences t).map fun o => o.identifier.text := by
  have hpiece : ∀ s ∈ LiveText.tokens t, (r.piece s).item.tags.map Element.identifierText =
      (identifiersOf [s]).map Identifier.text := by
    intro s hs
    cases s with
    | char c => rfl
    | identifier i =>
      exact congrArg ([·]) (r.identifierText_attributes ((reading_tokens t).wellFormed hs) _)
  calc (outline (r.ofText t)).flatMap (fun x => x.tags.map Element.identifierText)
      = (r.line t).flatMap fun p => p.item.tags.map Element.identifierText := by
        rw [outline_ofText, List.flatMap_map]
    _ = (LiveText.tokens t).flatMap fun s => (r.piece s).item.tags.map Element.identifierText := by
        rw [line, Line.flatMap_joined rfl fun _ _ => rfl, List.flatMap_map]
    _ = (LiveText.tokens t).flatMap fun s => (identifiersOf [s]).map Identifier.text :=
        List.flatMap_congr hpiece
    _ = (occurrences t).map fun o => o.identifier.text := by
        rw [← List.map_flatMap, ← identifiersOf_eq_flatMap, ← map_identifier_occurrencesFrom 0,
          List.map_map]
        rfl

/-! ## Nodes with tags put in -/

mutual

/-- The induction behind `flatMap_outline_tagNodes`, on a node. -/
theorem flatMap_outline_tagNode {α : Type} {g h : Item → List α}
    (htext : ∀ region t, (outline (r.tagNode (.text region t))).flatMap g = h (.text t))
    (hother : ∀ x : Item, (∀ t, x ≠ .text t) → g x = h x) :
    ∀ n : Node, (outline (r.tagNode n)).flatMap g = n.outline.flatMap h
  | .text region t => (htext region t).trans (List.append_nil _).symm
  | .comment _ => rfl
  | .doctype _ => rfl
  | .element name as children => by
    have hchildren := flatMap_outline_tagNodes htext hother children
    have hbreak : g .lineBreak = h .lineBreak := hother _ fun _ => Item.noConfusion
    have hedge : g .edge = h .edge := hother _ fun _ => Item.noConfusion
    rw [tagNode]
    by_cases hhidden : isHidden name = true
    · rw [if_pos (by rw [hhidden, Bool.or_true]), outline_singleton, Node.outline, if_pos hhidden]
      rfl
    by_cases hmarks : marksVariable as = true
    · rw [if_pos (by rw [hmarks, Bool.true_or]), outline_singleton, Node.outline, if_neg hhidden,
        if_pos hmarks]
      exact congrArg (· ++ []) (hother _ fun _ => Item.noConfusion)
    rw [if_neg (by simp [hhidden, hmarks]), outline_singleton, Node.outline, Node.outline,
      if_neg hhidden, if_neg hhidden, if_neg hmarks, if_neg hmarks]
    split
    · rw [List.flatMap_cons, List.flatMap_cons, hbreak, hchildren]
    · split
      · simp only [List.cons_append, List.flatMap_cons, List.flatMap_append, List.flatMap_nil, hedge,
          hchildren]
      · exact hchildren

/-- What is told of the outline of nodes with tags put in, if it is known of the texts; nothing else
is changed. -/
theorem flatMap_outline_tagNodes {α : Type} {g h : Item → List α}
    (htext : ∀ region t, (outline (r.tagNode (.text region t))).flatMap g = h (.text t))
    (hother : ∀ x : Item, (∀ t, x ≠ .text t) → g x = h x) :
    ∀ ns : List Node, (outline (r.tagNodes ns)).flatMap g = (outline ns).flatMap h
  | [] => rfl
  | n :: ns => by
    rw [tagNodes, outline_append, outline, List.flatMap_append, List.flatMap_append,
      flatMap_outline_tagNode htext hother n, flatMap_outline_tagNodes htext hother ns]

end

/-- **Putting tags in changes no text.** -/
theorem laid_outline_tagNodes (ns : List Node) :
    laid Element.identifierText (outline (r.tagNodes ns)) =
      laid Element.identifierText (outline ns) := by
  refine r.flatMap_outline_tagNodes (fun region t => ?_) (fun _ _ => rfl) ns
  rw [tagNode]
  split
  · exact List.append_nil t
  · exact r.laid_outline_ofText t

/-- **The tags of a document** are those that were in it, and one for each identifier that is found in
a text. -/
theorem texts_tags_tagNodes (ns : List Node) :
    (countedTags (r.tagNodes ns)).map Element.identifierText = (outline ns).flatMap Item.found := by
  rw [countedTags, List.map_flatMap]
  have hother : ∀ x : Item, (∀ t, x ≠ .text t) → x.tags.map Element.identifierText = x.found := by
    intro x hx
    cases x with
    | text t => exact absurd rfl (hx t)
    | tag e => rfl
    | lineBreak => rfl
    | edge => rfl
  refine r.flatMap_outline_tagNodes (fun region t => ?_) hother ns
  rw [tagNode]
  split
  · next hnone => rw [Item.found, List.isEmpty_iff.1 hnone]; rfl
  · exact r.texts_tags_ofText t

/-! ## Documents -/

/-- The nodes that markup is read as, before tags are put in. -/
def markupNodes (markup : Text) : List Node :=
  if markup.isEmpty then []
  else
    let t := separate (Text.unifyLineEnds markup)
    let wrapped := openingTag paragraphName [] ++ t ++ closingTag paragraphName
    read (if startsWithBlock t then t else wrapped)

theorem renderMarkup_eq (markup : Text) :
    r.renderMarkup markup = write (r.tagNodes (markupNodes markup)) := by
  rw [renderMarkup, markupNodes]
  split <;> rfl

end

theorem voidsEmpty_markupNodes (markup : Text) : ∀ n ∈ markupNodes markup, VoidsEmpty n := by
  rw [markupNodes]
  split
  · exact fun n hn => absurd hn List.not_mem_nil
  · exact voidsEmpty_readWith _ _

end Renderer

/-- **What is asked of a document** that is written and read back as the nodes `ms`: its text is laid
out as it was, whether neighbouring texts have been joined or not, and its tags stand for what they
stood for. -/
structure Regained (ns ms : List Node) : Prop where
  laid : laid Element.identifierText (outline ms) = laid Element.identifierText (outline ns)
  tags : (countedTags ms).map Element.identifierText = (countedTags ns).map Element.identifierText

/-! ## Paragraphs -/

theorem outline_paragraph {l : Line} (hl : ∀ p ∈ l, p.Marked) :
    (paragraph l).outline = .edge :: l.map Piece.item ++ [.edge] := by
  rw [paragraph, Node.outline, if_neg (by decide), if_neg (by decide), if_neg (by decide),
    if_pos (by decide), outline_map_node hl]

section
variable {d : List Line} (hd : ∀ l ∈ d, ∀ p ∈ l, p.Proper ∧ p.Marked)
include hd

/-- What is told of the outline of paragraphs is not changed by reading them back, if it depends
neither on how texts are joined nor on the order of attributes. -/
theorem flatMap_outline_readBack {α : Type} {g : Item → List α} (hnil : g (.text []) = [])
    (happend : ∀ t u, g (.text (t ++ u)) = g (.text t) ++ g (.text u))
    (hordered : ∀ as label, (as.map Attribute.name).Nodup →
      g (Piece.tag as label).ordered.item = g (Piece.tag as label).item) :
    (outline (d.map readBack)).flatMap g = (outline (d.map paragraph)).flatMap g := by
  induction d with
  | nil => rfl
  | cons l d ih =>
    obtain ⟨hl, hd⟩ := List.forall_mem_cons.1 hd
    have hjoined : ∀ p ∈ l.joined, p.Proper ∧ p.Marked :=
      Line.forall_mem_joined (fun _ _ _ _ => ⟨trivial, trivial⟩) hl
    have hmarked : ∀ p ∈ l.joined.map Piece.ordered, p.Marked := by
      refine List.forall_mem_map.2 fun p hp => ?_
      obtain ⟨hproper, hmarked⟩ := hjoined p hp
      exact hmarked.ordered hproper
    have hpiece : ∀ p ∈ l.joined, g p.ordered.item = g p.item := by
      intro p hp
      cases p with
      | text t => rfl
      | tag as label => exact hordered as label (hjoined _ hp).1.2.1
    have hline : ((l.joined.map Piece.ordered).map Piece.item).flatMap g =
        (l.map Piece.item).flatMap g := by
      calc ((l.joined.map Piece.ordered).map Piece.item).flatMap g
          = l.joined.flatMap fun p => g p.item := by
            rw [List.map_map, List.flatMap_map]
            exact List.flatMap_congr hpiece
        _ = (l.map Piece.item).flatMap g := by
            rw [Line.flatMap_joined hnil happend, List.flatMap_map]
    rw [List.map_cons, List.map_cons, outline, outline, List.flatMap_append, List.flatMap_append,
      ih hd, readBack, outline_paragraph hmarked, outline_paragraph fun p hp => (hl p hp).2,
      List.cons_append, List.cons_append, List.flatMap_cons, List.flatMap_cons, List.flatMap_append,
      List.flatMap_append, hline]

/-- **Paragraphs are regained** by every reader that reads them back. -/
theorem regained_of_readsBack {parse : Text → List Node} (hparse : ReadsBack parse)
    (hplain : Plain (d.map paragraph)) :
    Regained (d.map paragraph) (parse (write (d.map paragraph))) := by
  rw [hparse d (fun l hl p hp => (hd l hl p hp).1) hplain]
  constructor
  · exact flatMap_outline_readBack hd rfl (fun _ _ => rfl) fun _ _ has =>
      Renderer.identifierText_ordered has _ _
  · rw [countedTags, countedTags, List.map_flatMap, List.map_flatMap]
    exact flatMap_outline_readBack hd rfl (fun _ _ => rfl) fun _ _ has =>
      congrArg ([·]) (Renderer.identifierText_ordered has _ _)

end

/-! ## Identifiers with and without tags -/

/-- The element stands for an identifier. -/
def Markup.Element.Stands (e : Element) : Prop :=
  ∃ i : Identifier, i.WellFormed ∧ e.identifierText = i.text

theorem identifiers_text {i : Identifier} (hi : i.WellFormed) : identifiers i.text = [i] := by
  have hgap : i.needsGap [] = false := Bool.and_false _
  have halone : identifiersAfter none (i.text ++ []) = i :: identifiersAfter i.lastChar [] :=
    identifiersAfter_noGap rfl (Identifier.standsBefore_nil hi) hgap
  rwa [List.append_nil, identifiersAfter_nil, ← identifiers_eq_after] at halone

/-- In a text of its own, an identifier is found without separating unless it is hidden. -/
theorem map_text_identifiers_eq_iff {t : Text} :
    (identifiers t).map Identifier.text = (Item.text t).found ↔ NoneHidden t := by
  have hfound : (Item.text t).found = ((occurrences t).map (·.identifier)).map Identifier.text := by
    rw [List.map_map]
    rfl
  rw [← identifiers_eq_iff_noneHidden, hfound]
  refine ⟨fun h => ?_, congrArg (List.map Identifier.text)⟩
  have hlength := congrArg List.length h
  rw [List.length_map, List.length_map] at hlength
  exact ((sublist_identifiers t).eq_of_length hlength.symm).symm

theorem flatMap_eq_iff_of_sublist {α β : Type} {l : List α} {f g : α → List β}
    (h : ∀ x ∈ l, (g x).Sublist (f x)) : l.flatMap f = l.flatMap g ↔ ∀ x ∈ l, f x = g x := by
  refine ⟨fun heq => ?_, fun heq => ?_⟩
  · induction l with
    | nil => exact fun x hx => absurd hx List.not_mem_nil
    | cons x l ih =>
      obtain ⟨hx, hl⟩ := List.forall_mem_cons.1 h
      have hrest := (List.Sublist.flatMap_right l hl).length_le
      rw [List.flatMap_cons, List.flatMap_cons] at heq
      have hsum := congrArg List.length heq
      rw [List.length_append, List.length_append] at hsum
      have hlength : (f x).length = (g x).length := by
        have := hx.length_le
        omega
      obtain ⟨hfirst, hothers⟩ := List.append_inj heq hlength
      exact List.forall_mem_cons.2 ⟨hfirst, ih hl hothers⟩
  · exact List.flatMap_congr heq

/-- Where every tag stands for an identifier, the items of an outline have the identifiers that are
found in them, once they are separated, if and only if none is hidden in a text. -/
theorem flatMap_identifiers_eq_iff {items : List Item} (htags : ∀ e, .tag e ∈ items → e.Stands) :
    (items.flatMap fun x => (identifiers (x.said Element.identifierText)).map Identifier.text) =
        items.flatMap Item.found ↔
      ∀ t, .text t ∈ items → NoneHidden t := by
  have htag : ∀ e, .tag e ∈ items →
      (identifiers e.identifierText).map Identifier.text = (Item.tag e).found := by
    intro e he
    obtain ⟨i, hi, htext⟩ := htags e he
    rw [Item.found, htext, identifiers_text hi]
    rfl
  have hnone : (identifiers []).map Identifier.text = [] := congrArg _ identifiers_nil
  rw [flatMap_eq_iff_of_sublist]
  · refine ⟨fun h t ht => map_text_identifiers_eq_iff.1 (h _ ht), fun h x hx => ?_⟩
    cases x with
    | text t => exact map_text_identifiers_eq_iff.2 (h t hx)
    | tag e => exact htag e hx
    | lineBreak => exact hnone
    | edge => exact hnone
  · intro x hx
    cases x with
    | text t =>
      have hsub := (sublist_identifiers t).map Identifier.text
      rwa [List.map_map] at hsub
    | tag e => exact (htag e hx).symm ▸ List.Sublist.refl _
    | lineBreak => exact List.nil_sublist _
    | edge => exact List.nil_sublist _

theorem identifiers_rawTextOf (ns : List Node) :
    identifiers (rawTextOf ns) = identifiers (walkText Element.identifierText ns) := by
  rw [identifiers_eq, identifiers_eq, rawTextOf, separate_separate]

/-- **Putting tags into markup**: whatever reader a document is read back by that was made of markup,
its raw text has the identifiers that the raw text of the markup has; its tags are those of the markup,
and one for each identifier that is found in one of the texts of the markup on its own. Where every tag
of the markup stands for an identifier and no identifier goes on from one text into another one, or is
hidden by it, there is a tag for each identifier of the raw text if and only if no text of the markup
holds an identifier that hides the one behind it. -/
theorem renderMarkup_tags_iff (r : Renderer) (keeps : Text → Bool) (markup : Text)
    (hback : Regained (r.tagNodes (Renderer.markupNodes markup))
      (readWith keeps (r.renderMarkup markup))) :
    let items := outline (Renderer.markupNodes markup)
    let ms := readWith keeps (r.renderMarkup markup)
    let tagged := (countedTags ms).map Element.identifierText
    identifiers (rawTextOf ms) = identifiers (rawTextOf (Renderer.markupNodes markup)) ∧
      tagged = items.flatMap Item.found ∧
      ((∀ e, .tag e ∈ items → e.Stands) → Seamless Element.identifierText [] items →
        ((identifiers (rawTextOf ms)).map Identifier.text = tagged ↔
          ∀ t, .text t ∈ items → NoneHidden t)) := by
  intro items ms tagged
  have hraw : identifiers (rawTextOf ms) = identifiers (laid Element.identifierText items) := by
    rw [identifiers_rawTextOf, identifiers_walkText _ (voidsEmpty_readWith keeps _), hback.laid,
      r.laid_outline_tagNodes]
  have hsource : identifiers (rawTextOf (Renderer.markupNodes markup)) =
      identifiers (laid Element.identifierText items) := by
    rw [identifiers_rawTextOf, identifiers_walkText _ (Renderer.voidsEmpty_markupNodes markup)]
  have htagged : tagged = items.flatMap Item.found :=
    hback.tags.trans (r.texts_tags_tagNodes _)
  refine ⟨hraw.trans hsource.symm, htagged, fun htags hseamless => ?_⟩
  rw [htagged, hraw, identifiers_laid _ hseamless, List.map_flatMap]
  exact flatMap_identifiers_eq_iff htags

/-- A character reference puts an identifier right behind another one, where no space is put in front
of it before the document is read; so there is no tag for it. -/
theorem renderMarkup_tags_iff_reference :
    let r : Renderer := {}
    let markup := "@npc.hp&#64;npc.mp".toList
    let items := outline (Renderer.markupNodes markup)
    let ms := readWith (fun _ => true) (r.renderMarkup markup)
    Regained (r.tagNodes (Renderer.markupNodes markup)) ms ∧
      (∀ e, .tag e ∈ items → e.Stands) ∧ Seamless Element.identifierText [] items ∧
      (countedTags ms).map Element.identifierText = ["@npc.hp".toList] ∧
      (identifiers (rawTextOf ms)).map Identifier.text = ["@npc.hp".toList, "@npc.mp".toList] ∧
      ¬∀ t, .text t ∈ items → NoneHidden t := by
  intro r markup items ms
  let t := "@npc.hp@npc.mp".toList
  let d : List Line := [r.line t]
  have hnodes : Renderer.markupNodes markup = [paragraph [.text t]] := by decide +kernel
  have hitems : items = [.edge, .text t, .edge] := congrArg outline hnodes
  have hd : r.tagNodes (Renderer.markupNodes markup) = d.map paragraph := by
    rw [hnodes]
    decide +kernel
  have hback : Regained (r.tagNodes (Renderer.markupNodes markup)) ms := by
    have hregained := regained_of_readsBack (List.forall_mem_singleton.2 (r.proper_marked_line t))
      readsBack_keeping (by decide +kernel : Plain (d.map paragraph))
    rwa [← hd, ← r.renderMarkup_eq] at hregained
  have hstands : ∀ e, .tag e ∈ items → e.Stands := by simp [hitems]
  have hseamless : Seamless Element.identifierText [] items := by
    rw [hitems]
    exact ⟨seam_nil_left _, seam_nil_left t, seam_nil_right t, trivial⟩
  obtain ⟨hraw, htags, hiff⟩ := renderMarkup_tags_iff r _ markup hback
  have htags' : (countedTags ms).map Element.identifierText = ["@npc.hp".toList] := by
    rw [htags, hnodes]
    decide +kernel
  have hraw' : (identifiers (rawTextOf ms)).map Identifier.text =
      ["@npc.hp".toList, "@npc.mp".toList] := by
    rw [hraw, hnodes]
    decide +kernel
  refine ⟨hback, hstands, hseamless, htags', hraw', fun h => ?_⟩
  have heq := (hiff hstands hseamless).2 h
  rw [hraw', htags'] at heq
  cases heq

end LiveText
