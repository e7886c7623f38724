import LiveText.Proofs.Document.Plain

/-!
# Reading a document again

The text that is read from a document makes a document of its own, and what is read from that one
should be the text again. It is, as long as the text holds no carriage return and no null character
(`rawTextOf_render_rawTextOf`). A reference in the document may put one into the text; a renderer
unifies the line ends that it makes, and a reader takes what is left of it for a line feed.

What any reader makes of a text that was rendered is told line by line
(`rawTextOf_readWith_render_readBy`). `rawTextOf_readWith_render` says it for a reader that keeps what
stands in the lines.
-/

set_option autoImplicit false

namespace LiveText

open Markup

/-- A line holds no line feed. -/
theorem feed_notMem_lines {t : Text} : ∀ l ∈ Text.lines t, '\n' ∉ l := by
  induction t with
  | nil => exact List.forall_mem_singleton.2 List.not_mem_nil
  | cons c t ih =>
    by_cases hc : c = '\n'
    · rw [hc, Text.lines_cons_feed]
      exact List.forall_mem_cons.2 ⟨List.not_mem_nil, ih⟩
    · obtain ⟨l, ls, hls⟩ := List.exists_cons_of_ne_nil (Text.lines_ne_nil t)
      rw [hls] at ih
      obtain ⟨hl, hrest⟩ := List.forall_mem_cons.1 ih
      rw [Text.lines, Text.pieces_cons_of_ne hc hls]
      refine List.forall_mem_cons.2 ⟨fun hm => ?_, hrest⟩
      rcases List.mem_cons.1 hm with hm | hm
      · exact hc hm.symm
      · exact hl hm

/-- Without carriage returns there are no line ends to unify. -/
theorem unifyLineEnds_of_no_return {t : Text} (h : '\r' ∉ t) : Text.unifyLineEnds t = t := by
  induction t with
  | nil => rfl
  | cons c t ih =>
    rw [List.mem_cons, not_or] at h
    rw [Text.unifyLineEnds, ih h.2]
    exact fun _ hc => absurd hc.symm h.1

theorem map_joinLines {g : Char → Char} (hg : g '\n' = '\n') (ls : List Text) :
    (Text.joinLines ls).map g = Text.joinLines (ls.map (List.map g)) := by
  induction ls with
  | nil => rfl
  | cons l ls ih =>
    cases ls with
    | nil => rfl
    | cons m ls =>
      rw [Text.joinLines_cons_cons, List.map_append, List.map_cons, hg, ih]
      rfl

/-- Preparing makes no blanks of markup. -/
theorem isGap_of_preparedChar {c : Char} (h : isGap (preparedChar c) = true) : isGap c = true := by
  rw [preparedChar] at h
  split at h
  · next hc =>
    subst hc
    decide
  · split at h
    · exact absurd h (by decide)
    · exact h

/-! ## Identifiers and pieces -/

/-- An identifier begins with its at sign, prepared as well. -/
theorem prepared_text (i : Identifier) : prepared i.text = '@' :: prepared i.body :=
  prepared_append_of_stable (s := ['@']) (by decide) i.body

/-- The characters of an identifier are left as they are. -/
theorem map_preparedChar_text {i : Identifier} (hi : i.WellFormed) :
    i.text.map preparedChar = i.text := by
  refine (List.map_congr_left fun c hc => ?_).trans (List.map_id _)
  rcases List.mem_cons.1 hc with rfl | hc
  · decide
  · have hstop := hi.not_isStop c hc
    refine preparedChar_eq_self ?_ fun hnull => ?_
    · rintro rfl
      exact absurd hstop (by decide)
    · have hc : c = Char.ofNat 0 := by rw [← hnull, Char.ofNat_toNat]
      rw [hc] at hstop
      exact absurd hstop (by decide)

/-- A piece of one line: a text without line feeds, or a tag with an identifier for its label. -/
def Markup.Piece.InLine : Piece → Prop
  | .text t => '\n' ∉ t
  | .tag _ label => ∃ i : Identifier, label = i.text

/-- Preparing shortens no blanks. -/
theorem keeps_prepared {keeps : Text → Bool} {p : Piece} (hp : p.InLine)
    (h : Keeps keeps p.content) : Keeps keeps p.prepared.content := by
  refine h.imp_right fun hshort => ?_
  have of_not_gap : ∀ u : Text, ¬u.all isGap = true → Assembly.shortenBlanks u = u :=
    fun u hu => if_neg hu
  cases p with
  | tag as label =>
    obtain ⟨i, rfl⟩ := hp
    refine of_not_gap _ ?_
    rw [Piece.prepared, Piece.content, prepared_text, List.all_cons]
    exact fun hall => absurd ((Bool.and_eq_true _ _ ▸ hall).1) (by decide)
  | text t =>
    rw [Piece.prepared, Piece.content, prepared_of_no_feed hp]
    rw [Piece.content] at hshort
    by_cases hgap : t.all isGap = true
    · have ht : t = [' '] := by
        rw [Assembly.shortenBlanks, if_pos hgap, if_neg hp] at hshort
        exact hshort.symm
      subst ht
      decide
    · refine of_not_gap _ fun hall => hgap ?_
      rw [List.all_map] at hall
      exact List.all_eq_true.2 fun c hc => isGap_of_preparedChar (List.all_eq_true.1 hall c hc)

/-! ## The lines that a renderer writes -/

namespace Renderer

theorem inLine_line (r : Renderer) {t : Text} (ht : '\n' ∉ t) : ∀ p ∈ r.line t, p.InLine := by
  refine Line.forall_mem_joined (fun u v hu hv => ?_) fun p hp => ?_
  · exact fun hm => (List.mem_append.1 hm).elim hu hv
  · obtain ⟨s, hs, rfl⟩ := List.mem_map.1 hp
    cases s with
    | char c =>
      have hc : c ∈ t := subset_of_mem_tokens hs List.mem_cons_self
      exact fun hm => ht (List.mem_singleton.1 hm ▸ hc)
    | identifier i => exact r.exists_label_eq i

/-- The pieces of a line can be read back, prepared as well. -/
theorem proper_prepared (r : Renderer) (t : Text) : ∀ p ∈ (r.line t).prepared, p.Proper := by
  rw [Line.prepared, joined_line]
  refine List.forall_mem_map.2 (Line.forall_mem_joined (fun _ _ _ _ => trivial) fun p hp => ?_)
  obtain ⟨s, -, rfl⟩ := List.mem_map.1 hp
  cases s with
  | char c => trivial
  | identifier i =>
    refine ⟨?_, ?_, ?_⟩
    · obtain ⟨j, hj⟩ := r.exists_label_eq i
      rw [hj, prepared_text]
      exact List.cons_ne_nil _ _
    · rw [List.map_map]
      exact r.nodup_names_attributes i
    · intro a ha
      obtain ⟨b, hb, rfl⟩ := List.mem_map.1 ha
      exact r.proper_attribute hb (by decide)

/-- A prepared tag is a variable tag still. -/
theorem marked_prepared (r : Renderer) (t : Text) :
    ∀ p ∈ (r.line t).prepared, p.ordered.Marked := by
  rw [Line.prepared, joined_line]
  refine List.forall_mem_map.2 (Line.forall_mem_joined (fun _ _ _ _ => trivial) fun p hp => ?_)
  obtain ⟨s, -, rfl⟩ := List.mem_map.1 hp
  cases s with
  | char c => trivial
  | identifier i =>
    have hmem : (⟨"data-variable".toList, []⟩ : Attribute) ∈
        ordered ((r.attributes i).map Attribute.prepared) :=
      mem_ordered.2 (List.mem_map.2 ⟨⟨"data-variable".toList, []⟩, by simp [attributes], rfl⟩)
    exact marksVariable_of_mem hmem

/-- A prepared tag stands for the identifier that it was made for. -/
theorem identifierText_prepared (r : Renderer) {i : Identifier} (hi : i.WellFormed)
    (children : List Node) :
    Element.identifierText ⟨spanName, ordered ((r.attributes i).map Attribute.prepared), children⟩ =
      i.text := by
  have hnames : (((r.attributes i).map Attribute.prepared).map Attribute.name).Nodup := by
    rw [List.map_map]
    exact r.nodup_names_attributes i
  have hfeed : '\n' ∉ i.text := fun hm => absurd (hi.not_isBlank _ hm) (by decide)
  have htext : prepared i.text = i.text := by
    rw [prepared_of_no_feed hfeed, map_preparedChar_text hi]
  refine (identifierText_ordered hnames _ _).trans
    (identifierText_of_mem hnames hi (List.mem_map.2 ⟨_, r.mem_attributes i, ?_⟩) children)
  rw [Attribute.prepared, htext]

/-- What is said by a line that was prepared. -/
theorem said_prepared (r : Renderer) {t : Text} (ht : '\n' ∉ t) :
    Line.said Element.identifierText ((r.line t).prepared.joined.map Piece.ordered) =
      t.map preparedChar := by
  let label (e : Element) : Text :=
    Element.identifierText { e with attributes := ordered e.attributes }
  -- what a piece says is put together from its characters
  let content : Piece → Text
    | .text u => u.map preparedChar
    | .tag as m => Piece.said label (Piece.tag as m).prepared
  have hcontent : ∀ p ∈ r.line t, Piece.said label p.prepared = content p := by
    intro p hp
    cases p with
    | text u => exact prepared_of_no_feed (r.inLine_line ht _ hp)
    | tag as m => rfl
  have hpiece : ∀ s ∈ LiveText.tokens t, content (r.piece s) = s.text.map preparedChar := by
    intro s hs
    cases s with
    | char c => rfl
    | identifier i =>
      have hi := (reading_tokens t).wellFormed hs
      exact (r.identifierText_prepared hi _).trans (map_preparedChar_text hi).symm
  calc Line.said Element.identifierText ((r.line t).prepared.joined.map Piece.ordered)
      = (r.line t).flatMap fun p => Piece.said label p.prepared := by
        rw [Line.said_map_ordered, Line.said_joined, Line.prepared, joined_line, Line.said,
          List.flatMap_map]
    _ = (r.line t).flatMap content := List.flatMap_congr hcontent
    _ = (LiveText.tokens t).flatMap fun s => content (r.piece s) := by
        rw [line, Line.flatMap_joined rfl fun _ _ => List.map_append, List.flatMap_map]
    _ = (LiveText.tokens t).flatMap fun s => s.text.map preparedChar := List.flatMap_congr hpiece
    _ = t.map preparedChar := by
        rw [← List.map_flatMap, text_tokens]

/-- What any reader reads in a line that was rendered. -/
def readBy (keeps : Text → Bool) (r : Renderer) (t : Text) : Text :=
  Line.said Element.identifierText
    (((r.line t).prepared.joined.map (Piece.settled keeps)).map Piece.ordered)

/-- A line that is kept is read as it is, but for what is prepared. -/
theorem readBy_of_kept (r : Renderer) {keeps : Text → Bool} {t : Text} (ht : '\n' ∉ t)
    (hk : Kept keeps (r.line t).joined) : r.readBy keeps t = t.map preparedChar := by
  have hsettled : (r.line t).prepared.joined.map (Piece.settled keeps) =
      (r.line t).prepared.joined := by
    refine (List.map_congr_left fun p hp => settled_of_keeps ?_).trans (List.map_id _)
    rw [Line.joined_prepared] at hp
    have hprepared : Kept keeps (r.line t).prepared := List.forall_mem_map.2 fun q hq =>
      keeps_prepared (r.inLine_line ht q (r.joined_line t ▸ hq)) (hk q hq)
    exact hprepared p hp
  rw [readBy, hsettled, r.said_prepared ht]

/-- What any reader makes of the paragraphs that a renderer writes is told line by line. -/
theorem rawTextOf_readWith_paragraphs (r : Renderer) (keeps : Text → Bool) (raw : Text) :
    rawTextOf (readWith keeps (write (r.paragraphs raw))) =
      separate (Text.joinLines ((Text.lines (separate (Text.unifyLineEnds raw))).map
        (r.readBy keeps))) := by
  have hproper : ∀ l ∈ r.lines raw, ∀ p ∈ l.prepared, p.Proper :=
    List.forall_mem_map.2 fun t _ => r.proper_prepared t
  let back (l : Line) : Line := (l.prepared.joined.map (Piece.settled keeps)).map Piece.ordered
  have hmarked : ∀ l ∈ (r.lines raw).map back, ∀ p ∈ l, p.Marked := by
    refine List.forall_mem_map.2 (List.forall_mem_map.2 fun t _ => ?_)
    refine List.forall_mem_map.2 (List.forall_mem_map.2 fun p hp => ?_)
    rw [Line.joined_prepared] at hp
    have hp := r.marked_prepared t p hp
    cases p with
    | text u => trivial
    | tag as label => exact hp
  have hback : ((r.lines raw).map Line.prepared).map (readBackBy keeps) =
      ((r.lines raw).map back).map paragraph := by
    rw [List.map_map, List.map_map]
    rfl
  have hsaid : ((r.lines raw).map back).map (Line.said Element.identifierText) =
      (Text.lines (separate (Text.unifyLineEnds raw))).map (r.readBy keeps) := by
    rw [lines, List.map_map, List.map_map]
    rfl
  rw [r.paragraphs_eq, readWith_write_eq (r.proper_lines _) hproper, rawTextOf, hback,
    walkText_paragraphs _ hmarked, hsaid]

end Renderer

/-! ## The text that is read again -/

/-- What any reader makes of a text that was rendered. -/
theorem rawTextOf_readWith_render_readBy (r : Renderer) (keeps : Text → Bool) (raw : Text) :
    rawTextOf (readWith keeps (r.render raw)) =
      separate (Text.joinLines ((Text.lines (separate (Text.unifyLineEnds raw))).map
        (r.readBy keeps))) := by
  cases raw with
  | nil =>
    have hempty : separate [] = [] := separateAfter_nil none
    have hline : r.readBy keeps [] = [] := by
      rw [Renderer.readBy, Renderer.line, LiveText.tokens, tokensAfter_nil]
      rfl
    rw [Text.unifyLineEnds, hempty, Text.lines_nil, List.map_singleton, hline]
    exact (congrArg rawTextOf (readWith_nil keeps)).trans rfl
  | cons c cs =>
    rw [Renderer.render, if_neg (by simp)]
    exact r.rawTextOf_readWith_paragraphs keeps (c :: cs)

/-- **What is read of a text that was rendered**, by a reader that keeps the texts of the document:
the text with its line ends unified and its identifiers separated, and with line feeds for the carriage
returns that are left. -/
theorem rawTextOf_readWith_render (r : Renderer) {keeps : Text → Bool} {raw : Text}
    (hkept : ∀ l ∈ r.lines raw, Kept keeps l.joined) :
    rawTextOf (readWith keeps (r.render raw)) =
      separate ((separate (Text.unifyLineEnds raw)).map preparedChar) := by
  have hlines : ∀ t ∈ Text.lines (separate (Text.unifyLineEnds raw)), '\n' ∉ t :=
    feed_notMem_lines
  have hread : (Text.lines (separate (Text.unifyLineEnds raw))).map (r.readBy keeps) =
      (Text.lines (separate (Text.unifyLineEnds raw))).map (List.map preparedChar) :=
    List.map_congr_left fun t ht =>
      r.readBy_of_kept (hlines t ht) (hkept _ (List.mem_map_of_mem ht))
  rw [rawTextOf_readWith_render_readBy, hread, ← map_joinLines (by decide), Text.joinLines_lines]

/-- **When a text is read again as it was**: if and only if it holds neither a carriage return nor a
null character. -/
theorem rawTextOf_render_rawTextOf (r : Renderer) {keeps : Text → Bool} {html : Text}
    (hkept : ∀ l ∈ r.lines (rawTextOf (readWith keeps html)), Kept keeps l.joined) :
    rawTextOf (readWith keeps (r.render (rawTextOf (readWith keeps html)))) =
        rawTextOf (readWith keeps html) ↔
      '\r' ∉ rawTextOf (readWith keeps html) ∧ Char.ofNat 0 ∉ rawTextOf (readWith keeps html) := by
  have hseparate : separate (rawTextOf (readWith keeps html)) = rawTextOf (readWith keeps html) :=
    separate_separate _
  generalize rawTextOf (readWith keeps html) = raw at *
  rw [rawTextOf_readWith_render r hkept]
  constructor
  · intro h
    have hnone : (separate ((separate (Text.unifyLineEnds raw)).map preparedChar)).all isStable =
        true := by
      refine all_separateAfter (by decide) none ?_
      rw [List.all_map]
      exact List.all_eq_true.2 fun c _ => isStable_preparedChar c
    rw [h, List.all_eq_true] at hnone
    exact ⟨fun hm => absurd (hnone _ hm) (by decide), fun hm => absurd (hnone _ hm) (by decide)⟩
  · rintro ⟨hreturn, hnull⟩
    have hchars : raw.map preparedChar = raw := by
      refine (List.map_congr_left fun c hc => ?_).trans (List.map_id raw)
      refine preparedChar_eq_self (ne_of_mem_of_not_mem hc hreturn) fun h0 => hnull ?_
      rwa [← h0, Char.ofNat_toNat]
    rw [unifyLineEnds_of_no_return hreturn, hseparate, hchars, hseparate]

/-- A reference for a carriage return in front of a line feed is lost when the text is read again; two
identifiers that stand back to back in a document are not. -/
theorem rawTextOf_render_rawTextOf_return :
    let keeping := readWith fun _ => true
    let r : Renderer := {}
    rawTextOf (keeping "a&#13;\nb".toList) = "a\r\nb".toList ∧
      rawTextOf (keeping (r.render "a\r\nb".toList)) ≠ "a\r\nb".toList ∧
      rawTextOf (keeping "<p>@a.b@c.d".toList) = "@a.b @c.d".toList ∧
      rawTextOf (keeping (r.render "@a.b @c.d".toList)) = "@a.b @c.d".toList := by
  intro keeping r
  have hreturn : rawTextOf (keeping "a&#13;\nb".toList) = "a\r\nb".toList := by decide +kernel
  have hpair : rawTextOf (keeping "<p>@a.b@c.d".toList) = "@a.b @c.d".toList := by decide +kernel
  refine ⟨hreturn, fun h => ?_, hpair, ?_⟩
  · have hiff := @rawTextOf_render_rawTextOf r (fun _ => true) "a&#13;\nb".toList
      fun _ _ _ _ => .inl rfl
    rw [hreturn] at hiff
    exact (hiff.1 h).1 (by decide)
  · have hiff := @rawTextOf_render_rawTextOf r (fun _ => true) "<p>@a.b@c.d".toList
      fun _ _ _ _ => .inl rfl
    rw [hpair] at hiff
    exact hiff.2 ⟨by decide, by decide⟩

end LiveText
