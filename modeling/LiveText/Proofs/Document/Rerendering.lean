import LiveText.Proofs.Document.InPlace
import LiveText.Proofs.Document.Rereading
import LiveText.Proofs.Document.Resolution
import LiveText.Proofs.Identifier.Tight

/-!
# Rendering a document once more

What a renderer has written is markup, and it can be given to the renderer as markup. Nothing happens
to it then (**`renderMarkupWith_render`**), in none of the ways in which something could:

* no space is put into the source (`tight_write_lines`). There are more identifiers in the source than
  in the text, since the values of a tag name some; but between any two at signs of a tag a value ends,
  or there is a bracket (`exists_write_tag`). In the texts between tags no identifier is left that one
  could stand behind (`separateAfter_source`): they were separated while the identifiers stood in them;
* the document begins with a block, so no paragraph is put around it;
* no tag is put in (`tagNodes_readBack`): the texts between tags hold no identifiers, and tags are left
  alone;
* the attributes of a tag are in order already (`write_readBack`).

It is asked that no at sign stands in the ids, sources and fields of the records, which the values and
the label of a tag are made of.
-/

set_option autoImplicit false

namespace LiveText

open Markup Identifier

/-! ## Counting at signs -/

theorem Markup.count_at_flatMap {f : Char → Text} (hf : ∀ c, (f c).count '@' = [c].count '@')
    (t : Text) : (t.flatMap f).count '@' = t.count '@' := by
  induction t with
  | nil => rfl
  | cons c t ih => rw [List.flatMap_cons, List.count_append, hf, ih, ← List.count_append]; rfl

/-- No at sign is written for a character but for an at sign. -/
theorem Markup.count_escape (t : Text) : (escape t).count '@' = t.count '@' := by
  refine count_at_flatMap (fun c => ?_) t
  rcases escapeChar_cases c with rfl | rfl | rfl | ⟨-, -, hc⟩
  · rfl
  · rfl
  · rfl
  · rw [hc]

theorem Markup.count_quotedValue (v : Text) : (quotedValue v).count '@' = v.count '@' := by
  have hbetween : ∀ (c : Char) (u : Text), c ≠ '@' → (c :: (u ++ [c])).count '@' = u.count '@' := by
    intro c u hc
    rw [List.count_cons_of_ne hc, List.count_append, List.count_cons_of_ne hc]
    rfl
  have hquot : ∀ c : Char,
      (if c = '"' then "&quot;".toList else [c]).count '@' = [c].count '@' := by
    intro c
    split
    · next hc =>
      subst hc
      rfl
    · rfl
  rw [quotedValue]
  split
  · split
    · rw [hbetween _ _ (by decide), count_at_flatMap hquot, count_escape]
    · rw [hbetween _ _ (by decide), count_escape]
  · rw [hbetween _ _ (by decide), count_escape]

/-! ## The source of a tag -/

/-- No space is put into attributes whose values have one at sign at most, since each of them begins
with a blank. -/
theorem Markup.tight_attributes {as : List Attribute}
    (h : ∀ a ∈ as, a.Named ∧ a.value.count '@' ≤ 1) {t : Text} (ht : Tight t) (hfence : Fenced t) :
    Tight (as.flatMap Attribute.written ++ t) ∧ Fenced (as.flatMap Attribute.written ++ t) := by
  induction as with
  | nil => exact ⟨ht, hfence⟩
  | cons a as ih =>
    obtain ⟨⟨hnamed, hvalue⟩, has⟩ := List.forall_mem_cons.1 h
    obtain ⟨htight, hfenced⟩ := ih has
    have hname : a.name.count '@' = 0 := List.count_eq_zero.2 fun hat =>
      absurd (hnamed.2 _ hat) (by decide)
    have hcount : a.written.count '@' ≤ 1 := by
      rw [Attribute.written, List.count_cons_of_ne (by decide), List.count_append, hname,
        List.count_cons_of_ne (by decide), count_quotedValue, Nat.zero_add]
      exact hvalue
    rw [List.flatMap_cons, List.append_assoc]
    exact ⟨(tight_of_count hcount).append htight hfenced, ⟨' ', _, rfl, by decide, by decide⟩⟩

/-- The source of a tag ends in a bracket, and no space is put in front of that. -/
theorem Markup.exists_write_tag {as : List Attribute} {label : Text}
    (has : ∀ a ∈ as, a.Named ∧ a.value.count '@' ≤ 1) (hlabel : label.count '@' ≤ 1) :
    ∃ t, (Piece.tag as label).node.write false = t ++ ['>'] ∧ Tight t := by
  have hend : Tight ('>' :: (escape label ++ "</span".toList)) := by
    refine tight_of_count ?_
    rw [List.count_cons_of_ne (by decide), List.count_append, count_escape]
    exact hlabel
  obtain ⟨htight, -⟩ := tight_attributes (fun a ha => has a (mem_ordered.1 ha)) hend
    ⟨'>', _, rfl, by decide, by decide⟩
  refine ⟨"<span".toList ++ ((ordered as).flatMap Attribute.written ++
    '>' :: (escape label ++ "</span".toList)), ?_, htight.prepend (by decide)⟩
  rw [write_tag, openingTag, closingTag, writtenAttributes]
  simp [spanName, ordered]

/-! ## The source of a line -/

/-- Joining makes no difference to what is written. -/
theorem Markup.writeAll_joined (l : Line) :
    writeAll false (l.joined.map Piece.node) = writeAll false (l.map Piece.node) := by
  rw [writeAll_eq_flatMap, writeAll_eq_flatMap, List.flatMap_map, List.flatMap_map]
  exact Line.flatMap_joined rfl escape_append l

namespace Renderer

/-- No at sign stands in what a tag tells of a record. -/
def AtFree (r : Renderer) : Prop :=
  ∀ s ∈ r.records, ∀ x ∈ s.records, '@' ∉ x.id ∧ '@' ∉ x.sourceName ∧ '@' ∉ x.field

/-- What is written for tokens. -/
def source (r : Renderer) (ts : List LiveText.Token) : Text :=
  ts.flatMap fun s => (r.piece s).node.write false

theorem source_char (r : Renderer) (c : Char) (ts : List LiveText.Token) :
    r.source (.char c :: ts) = escapeChar c ++ r.source ts :=
  congrArg (· ++ r.source ts) (List.append_nil (escapeChar c))

theorem writeAll_line (r : Renderer) (t : Text) :
    writeAll false ((r.line t).map Piece.node) = r.source (LiveText.tokens t) := by
  rw [line, writeAll_joined, writeAll_eq_flatMap, List.map_map, List.flatMap_map]
  rfl

/-- The source of tokens starts like their text. -/
theorem sameStart_source (r : Renderer) (ts : List LiveText.Token) {rest : Text} (hrest : Stops rest) :
    SameStart (written ts) (r.source ts ++ rest) := by
  induction ts with
  | nil => exact sameStart_of_stops stops_nil hrest
  | cons s ts ih =>
    cases s with
    | identifier i => exact sameStart_of_stops (i.stops_text_append _) (stops_cons (by decide) _)
    | char c =>
      rw [source_char, List.append_assoc]
      rcases escapeChar_cases c with rfl | rfl | rfl | ⟨-, -, hc⟩
      · exact sameStart_of_stops (stops_cons (by decide) _) (stops_cons (by decide) _)
      · exact sameStart_of_stops (stops_cons (by decide) _) (stops_cons (by decide) _)
      · exact sameStart_of_stops (stops_cons (by decide) _) (stops_cons (by decide) _)
      · rw [hc]
        exact ih.cons c

section
variable {r : Renderer} (hr : r.AtFree)
include hr

/-- The values of a tag, and its label, have one at sign at most. -/
theorem count_tag {i : Identifier} (hi : i.WellFormed) :
    (∀ a ∈ r.attributes i, a.value.count '@' ≤ 1) ∧ (r.info i).label.count '@' ≤ 1 := by
  let p : Char → Bool := (· != '@')
  have hp : ∀ {t : Text}, '@' ∉ t ↔ t.all p = true := fun {t} => by
    rw [List.all_eq_true]
    refine ⟨fun h c hc => bne_iff_ne.2 ?_, fun h hat => absurd (h _ hat) (by decide)⟩
    rintro rfl
    exact h hc
  have hbody : i.body.all p = true := hp.1 hi.at_not_mem_body
  have hfound : ∀ x, r.find i = some x →
      x.id.all p = true ∧ x.sourceName.all p = true ∧ x.field.all p = true := by
    intro x hx
    obtain ⟨s, hs, hresolve⟩ := Option.bind_eq_some_iff.1 hx
    obtain ⟨hid, hsource, hfield⟩ := hr s hs x (Snapshot.mem_of_resolve hresolve)
    exact ⟨hp.1 hid, hp.1 hsource, hp.1 hfield⟩
  have hone : ∀ {t : Text}, t.all p = true → ('@' :: t).count '@' ≤ 1 := fun ht =>
    Nat.le_of_eq (List.count_cons_self.trans (congrArg (· + 1) (List.count_eq_zero.2 (hp.2 ht))))
  obtain ⟨-, -, -, t, hlabel, ht⟩ := all_info hbody hfound (by decide) (by decide)
  refine ⟨fun a ha => ?_, hlabel ▸ hone ht⟩
  have hnamed : ∀ c, isNamed c = true → p c = true := fun c hc =>
    bne_iff_ne.2 (ne_of_class hc (by decide))
  rcases all_value hbody hfound (by decide) (by decide) hnamed a ha with heq | hvalue
  · rw [heq]
    exact hone hbody
  · rw [List.count_eq_zero.2 (hp.2 hvalue)]
    exact Nat.zero_le 1

/-- **No space is put into the source of a line**: of what looked like identifiers in the line, those
that are left are as they were, and behind a tag the source goes on like a text of its own. The
induction is on the tokens of the line. -/
theorem separateAfter_source {prev : Option Char} {ts : List LiveText.Token} (h : Reading prev ts)
    (hgap : NoGap ts) {prev' : Option Char}
    (hprev : opensAfter prev' = opensAfter prev ∨ startsBare (written ts) = false)
    {rest : Text} (hrest : Tight rest) (hfence : Fenced rest) :
    separateAfter prev' (r.source ts ++ rest) = r.source ts ++ rest := by
  induction h generalizing prev' with
  | nil prev => exact hrest prev'
  | @char prev c ts h _ ih =>
    have hreference : ∀ {u : Text} {d : Char}, '@' ∉ u → u.getLast? = some d →
        opensAfter (some d) = opensAfter (some c) →
        separateAfter prev' (u ++ (r.source ts ++ rest)) = u ++ (r.source ts ++ rest) := by
      intro u d hu hlast hopens
      rw [separateAfter_append_of_no_at hu, hlast, Option.some_or, ih hgap (.inl hopens)]
    rw [source_char, List.append_assoc]
    rcases escapeChar_cases c with rfl | rfl | rfl | ⟨-, -, hc⟩
    · exact hreference (by decide) rfl rfl
    · exact hreference (by decide) rfl rfl
    · exact hreference (by decide) rfl rfl
    · have hnone := readAfter_none_of_hidden h (r.sameStart_source ts hfence.stops) hprev
      rw [hc, List.singleton_append, separateAfter_none hnone, ih hgap (.inl rfl)]
  | @identifier prev i ts _ h _ ih =>
    obtain ⟨hvalues, hlabel⟩ := count_tag hr (wellFormed_of_read h)
    obtain ⟨t, hwrite, ht⟩ := exists_write_tag
      (fun a ha => ⟨((r.proper_piece (.identifier i)).2.2 a ha).1, hvalues a ha⟩) hlabel
    have hsource : r.source (.identifier i :: ts) ++ rest = t ++ '>' :: (r.source ts ++ rest) := by
      rw [source, List.flatMap_cons, piece, hwrite, ← source]
      simp
    have hnext : opensAfter (some '>') = opensAfter i.lastChar ∨ startsBare (written ts) = false := by
      have hneeds := hgap.1
      rw [needsGap, Bool.and_eq_false_iff, Bool.not_eq_false'] at hneeds
      exact hneeds.imp_left fun hlegacy => (opensAfter_lastChar_of_isLegacy hlegacy).symm
    rw [hsource, ht.separateAfter_append (by decide) (by decide), ih hgap.2 hnext]

theorem tight_write_line {t : Text} (hgap : NoGap (LiveText.tokens t)) {rest : Text}
    (hrest : Tight rest) : Tight ((paragraph (r.line t)).write false ++ rest) := by
  have hclose : Tight (closingTag Markup.paragraphName ++ rest) := hrest.prepend (by decide)
  have hopens : opensAfter (some '>') = opensAfter none := rfl
  intro prev
  have hopening : openingTag Markup.paragraphName [] = "<p>".toList := openingTag_nil _
  have hlast : "<p>".toList.getLast?.or prev = some '>' := rfl
  rw [write_paragraph, writeAll_line, hopening, List.append_assoc, List.append_assoc,
    separateAfter_append_of_no_at (by decide), hlast,
    separateAfter_source hr (reading_tokens t) hgap (.inl hopens) hclose
      ⟨'<', _, rfl, by decide, by decide⟩]

/-- **No space is put into the source of a document.** -/
theorem tight_write_lines (raw : Text) : Tight (write ((r.lines raw).map paragraph)) := by
  have htight : ∀ ls : List Text, (∀ t ∈ ls, NoGap (LiveText.tokens t)) →
      Tight (write ((ls.map r.line).map paragraph)) := by
    intro ls
    induction ls with
    | nil => exact fun _ => tight_nil
    | cons t ls ih =>
      intro h
      obtain ⟨ht, hls⟩ := List.forall_mem_cons.1 h
      exact tight_write_line hr ht (ih hls)
  exact htight _ fun t ht => noGap_of_mem_lines ht

end

/-! ## What is put into the document -/

/-- What is read for markup: its identifiers are separated, and a paragraph is put around it unless it
starts with a block. -/
def markupSource (markup : Text) : Text :=
  let t := separate (Text.unifyLineEnds markup)
  if startsWithBlock t then t else openingTag paragraphName [] ++ t ++ closingTag paragraphName

/-- A document with this markup and with tags for the identifiers in it, as it is read by some
reader. -/
def renderMarkupWith (parse : Text → List Node) (r : Renderer) (markup : Text) : Text :=
  if markup.isEmpty then [] else write (r.tagNodes (parse (markupSource markup)))

/-- The reader of this library is one of them. -/
theorem renderMarkup_eq_with (r : Renderer) : r.renderMarkup = r.renderMarkupWith read := rfl

theorem tagNodes_eq_self (r : Renderer) {ns : List Node} (h : ∀ n ∈ ns, r.tagNode n = [n]) :
    r.tagNodes ns = ns := by
  induction ns with
  | nil => rfl
  | cons n ns ih =>
    obtain ⟨hn, hns⟩ := List.forall_mem_cons.1 h
    rw [tagNodes, hn, ih hns]
    rfl

/-- **No tag is put into a document** that was read back. -/
theorem tagNodes_readBack (r : Renderer) (raw : Text) :
    r.tagNodes ((r.lines raw).map readBack) = (r.lines raw).map readBack := by
  have hpiece : ∀ {ts : List LiveText.Token} {p : Piece}, r.Wrote ts p →
      r.tagNode p.ordered.node = [p.ordered.node] := by
    intro ts p hp
    cases hp with
    | @text t h =>
      have hnone : occurrences t = [] := by
        have hidentifiers := map_identifier_occurrencesFrom 0 (LiveText.tokens t)
        rw [h, identifiersOf_chars, List.map_eq_nil_iff] at hidentifiers
        rw [occurrences, h, hidentifiers]
      rw [Piece.ordered, Piece.node, Node.prose, tagNode, hnone]
      rfl
    | @tag i h => exact if_pos (by rw [r.marksVariable_tag i, Bool.true_or])
  refine r.tagNodes_eq_self (List.forall_mem_map.2 fun l hl => ?_)
  obtain ⟨t, ht, rfl⟩ := List.mem_map.1 hl
  have hchildren : ∀ n ∈ ((r.line t).map Piece.ordered).map Piece.node, r.tagNode n = [n] :=
    List.forall_mem_map.2 <| List.forall_mem_map.2 fun p hp =>
      hpiece (r.wrote_line (noGap_of_mem_lines ht) p hp)
  rw [readBack, r.joined_line, paragraph, tagNode, if_neg (by decide), r.tagNodes_eq_self hchildren]

end Renderer

/-! ## Reading back and writing -/

namespace Markup

/-- Attributes that are in order are written as they are. -/
theorem write_ordered (p : Piece) : p.ordered.node.write false = p.node.write false := by
  cases p with
  | text t => rfl
  | tag as label =>
    have hwritten : writtenAttributes (ordered as) = writtenAttributes as :=
      congrArg (·.flatMap Attribute.written) (ordered_ordered as)
    rw [Piece.ordered, write_tag, write_tag, openingTag, openingTag, hwritten]

/-- **What is read back is written as it was.** -/
theorem write_readBack (d : List Line) : write (d.map readBack) = write (d.map paragraph) := by
  have hline : ∀ l : Line, (readBack l).write false = (paragraph l).write false := by
    intro l
    have hordered : writeAll false ((l.joined.map Piece.ordered).map Piece.node) =
        writeAll false (l.joined.map Piece.node) := by
      rw [writeAll_eq_flatMap, writeAll_eq_flatMap, List.map_map, List.flatMap_map, List.flatMap_map]
      exact List.flatMap_congr fun p _ => write_ordered p
    rw [readBack, write_paragraph, write_paragraph, hordered, writeAll_joined]
  rw [write, write, writeAll_eq_flatMap, writeAll_eq_flatMap, List.flatMap_map, List.flatMap_map]
  exact List.flatMap_congr fun l _ => hline l

/-- No carriage return is written for a plain document. -/
theorem return_notMem_write {d : List Line} (hproper : ∀ l ∈ d, ∀ p ∈ l, p.Proper)
    (hplain : Plain (d.map paragraph)) : '\r' ∉ write (d.map paragraph) := by
  have hline : ∀ l ∈ d, (paragraph l.prepared).write false = (paragraph l).write false := by
    intro l hl
    rw [Line.prepared_of_plain (plain_map_paragraph.1 hplain l hl), write_paragraph, write_paragraph,
      writeAll_joined]
  have hprepared : prepared (write (d.map paragraph)) = write (d.map paragraph) := by
    have hwrite := prepared_write hproper []
    rw [List.append_nil, prepared, List.append_nil] at hwrite
    rw [hwrite, write, write, writeAll_eq_flatMap, writeAll_eq_flatMap, List.map_map,
      List.flatMap_map, List.flatMap_map]
    exact List.flatMap_congr hline
  intro hreturn
  rw [← hprepared] at hreturn
  exact absurd (List.all_eq_true.1 (stable_prepared _) _ hreturn) (by decide)

end Markup

namespace Renderer

/-! ## Documents -/

/-- A document starts with a paragraph. -/
theorem startsWithBlock_write (r : Renderer) (raw : Text) :
    startsWithBlock (write ((r.lines raw).map paragraph)) = true := by
  rw [lines]
  cases h : Text.lines (separate (Text.unifyLineEnds raw)) with
  | nil => exact absurd h (Text.lines_ne_nil _)
  | cons l ls =>
    rw [List.map_cons, List.map_cons, write, writeAll_cons, write_paragraph, openingTag_nil]
    rfl

/-- There is something written for a text that is not empty. -/
theorem render_eq (r : Renderer) {raw : Text} (hraw : raw ≠ []) :
    r.render raw = write ((r.lines raw).map paragraph) := by
  rw [render, if_neg (by simpa using hraw), r.paragraphs_eq]

section
variable {r : Renderer} (hr : r.AtFree) {raw : Text} (hplain : Markup.Plain (r.paragraphs raw))
include hr hplain

/-- **A document that was written is its own source.** -/
theorem source_render :
    separate (Text.unifyLineEnds (r.render raw)) = r.render raw ∧
      (raw ≠ [] → markupSource (r.render raw) = r.render raw) := by
  by_cases hraw : raw = []
  · subst hraw
    exact ⟨separateAfter_nil none, fun h => absurd rfl h⟩
  · rw [r.paragraphs_eq] at hplain
    have hunify := unifyLineEnds_of_no_return (return_notMem_write (r.proper_lines raw) hplain)
    have hseparate : separate (write ((r.lines raw).map paragraph)) =
        write ((r.lines raw).map paragraph) := tight_write_lines hr raw none
    rw [markupSource, r.render_eq hraw, hunify, hseparate, if_pos (r.startsWithBlock_write raw)]
    exact ⟨rfl, fun _ => rfl⟩

/-- A reader that gives back the document finds nothing to put into it. -/
theorem renderMarkupWith_of_readBack {parse : Text → List Node} (hnil : parse [] = [])
    (hread : raw ≠ [] → parse (r.render raw) = (r.lines raw).map readBack) :
    r.tagNodes (parse (r.render raw)) = parse (r.render raw) ∧
      r.renderMarkupWith parse (r.render raw) = r.render raw := by
  by_cases hraw : raw = []
  · subst hraw
    have hempty : r.render [] = [] := rfl
    rw [hempty, hnil]
    exact ⟨rfl, rfl⟩
  · have htags : r.tagNodes (parse (r.render raw)) = parse (r.render raw) := by
      rw [hread hraw, r.tagNodes_readBack]
    refine ⟨htags, ?_⟩
    have hsource := (source_render hr hplain).2 hraw
    rw [renderMarkupWith, hsource, htags, hread hraw, write_readBack, ← r.render_eq hraw]
    split
    · next hempty => exact (List.isEmpty_iff.1 hempty).symm
    · rfl

end

end Renderer

open Renderer

/-- **A document that is rendered once more as markup stays as it is**, whatever reader it is read by:
no space is put into its source and no paragraph around it, no tag is put in, and what is written is the
document, letter by letter. -/
theorem renderMarkupWith_render {parse : Text → List Node} (hparse : ReadsBack parse) {r : Renderer}
    (hr : r.AtFree) {raw : Text} (hplain : Markup.Plain (r.paragraphs raw)) :
    let html := r.render raw
    separate (Text.unifyLineEnds html) = html ∧ (raw ≠ [] → markupSource html = html) ∧
      r.tagNodes (parse html) = parse html ∧ r.renderMarkupWith parse html = html := by
  intro html
  obtain ⟨hseparate, hsource⟩ := source_render hr hplain
  have hread : raw ≠ [] → parse html = (r.lines raw).map readBack := fun hraw => by
    have hlines := hplain
    rw [r.paragraphs_eq] at hlines
    exact (congrArg parse (r.render_eq hraw)).trans (hparse _ (r.proper_lines raw) hlines)
  exact ⟨hseparate, hsource, renderMarkupWith_of_readBack hr hplain hparse.nil hread⟩

/-- Identifiers of all forms, one behind another, among characters that markup is made of; one of them
is shown in another form than it is written in. -/
theorem renderMarkupWith_render_forms :
    let hp : Record := { id := "a1b2c".toList, sourceName := "npc".toList, field := "hp".toList }
    let r : Renderer := { records := some (Snapshot.ofRecords [hp]) }
    let raw := "<@npc.hp@gv_a1b2c_hp> & @gv_npc_ff_mp-=@npc.mp\r\nx@npc.mp".toList
    let html := r.render raw
    let parse := readWith fun _ => true
    ReadsBack parse ∧ r.AtFree ∧ Markup.Plain (r.paragraphs raw) ∧ raw ≠ [] ∧
      separate (Text.unifyLineEnds html) = html ∧ markupSource html = html ∧
      r.tagNodes (parse html) = parse html ∧ r.renderMarkupWith parse html = html := by
  intro hp r raw html parse
  have hat : r.AtFree := by
    rintro _ ⟨⟩ x hx
    rw [List.mem_singleton.1 hx]
    decide
  have hr : r.Plain := by
    rintro _ ⟨⟩ x hx
    exact List.mem_singleton.1 hx ▸ (by decide +kernel : hp.Plain)
  have hplain : Markup.Plain (r.paragraphs raw) := plain_paragraphs hr (by decide +kernel)
  have hne : raw ≠ [] := by decide
  obtain ⟨hseparate, hsource, hrest⟩ := renderMarkupWith_render readsBack_keeping hat hplain
  exact ⟨readsBack_keeping, hat, hplain, hne, hseparate, hsource hne, hrest⟩

/-- The reader of this library shortens blank texts. A document in which there is none to shorten stays
as it is for it as well. -/
theorem renderMarkup_render {r : Renderer} (hr : r.AtFree) {raw : Text}
    (hplain : Markup.Plain (r.paragraphs raw)) (hkept : ∀ l ∈ r.lines raw, Kept keepsBlanks l.joined) :
    r.renderMarkup (r.render raw) = r.render raw := by
  have hlines := hplain
  rw [r.paragraphs_eq] at hlines
  have hread : raw ≠ [] → Markup.read (r.render raw) = (r.lines raw).map readBack := fun hraw =>
    (congrArg Markup.read (r.render_eq hraw)).trans
      (readWith_write (r.proper_lines raw) hlines hkept)
  rw [renderMarkup_eq_with]
  exact (renderMarkupWith_of_readBack hr hplain (readWith_nil keepsBlanks) hread).2

end LiveText
