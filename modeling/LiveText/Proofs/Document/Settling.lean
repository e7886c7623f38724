import LiveText.Proofs.Document.Rereading
import LiveText.Proofs.Identifier.Appending

/-!
# What any reader makes of a text

A reader shortens a blank text that stands alone in a paragraph or between two tags, if it does not
keep it. What it makes of a text that was rendered is said by `reread`: in every line the identifiers
stay, and the texts between them are settled one by one (`settledTokens`).

What is written behind the end of a text does not change how it is read again. The text may end in a
blank, and then an identifier is written behind it (`reread_append_text`), or else a space is
(`reread_append_space`).

## What is here

* **`rawTextOf_readWith_render_eq`**: any reader reads again what `reread` says.
* **`reread_append_text`** and **`reread_append_space`**.
-/

set_option autoImplicit false

namespace LiveText

open Text Markup

section
variable (keeps : Text → Bool)

/-! ## Settling -/

/-- What a reader makes of the text between two identifiers. -/
def settledRun (t : Text) : Text :=
  if t.isEmpty then [] else settledText keeps (t.map preparedChar)

/-- What a reader makes of the tokens of a line that follow the text `t`. -/
def settledTokens (t : Text) : List LiveText.Token → Text
  | [] => settledRun keeps t
  | .char c :: ts => settledTokens (t ++ [c]) ts
  | .identifier i :: ts => settledRun keeps t ++ i.text ++ settledTokens [] ts

/-- The text that a reader makes of a text that was rendered. -/
def reread (raw : Text) : Text :=
  separate (joinLines ((lines (separate (unifyLineEnds raw))).map fun l =>
    settledTokens keeps [] (LiveText.tokens l)))

end

variable {keeps : Text → Bool}

/-! ## The lines that a renderer writes -/

/-- What a reader makes of a piece, as far as it is said. -/
def Markup.Piece.settledSaid (keeps : Text → Bool) (p : Piece) : Text :=
  Piece.said Element.identifierText (p.prepared.settled keeps).ordered

theorem settledSaid_textPiece {t : Text} (ht : '\n' ∉ t) :
    (textPiece t).flatMap (Piece.settledSaid keeps) = settledRun keeps t := by
  cases t with
  | nil => rfl
  | cons c t =>
    have hsaid : Piece.settledSaid keeps (.text (c :: t)) = settledText keeps (prepared (c :: t)) :=
      rfl
    rw [textPiece_of_ne_nil (List.cons_ne_nil c t), List.flatMap_singleton, hsaid,
      prepared_of_no_feed ht]
    rfl

namespace Renderer

/-- The pieces of a line say what a reader makes of its tokens. -/
theorem settledSaid_joined (r : Renderer) {ts : List LiveText.Token} {t : Text}
    (hts : ∀ i, .identifier i ∈ ts → i.WellFormed) (hfeed : '\n' ∉ t ++ written ts) :
    (Line.joined (.text t :: ts.map r.piece)).flatMap (Piece.settledSaid keeps) =
      settledTokens keeps t ts := by
  induction ts generalizing t with
  | nil =>
    rw [written_nil, List.append_nil] at hfeed
    rw [List.map_nil, Line.joined_text_nil]
    exact settledSaid_textPiece hfeed
  | cons s ts ih =>
    have hts' : ∀ i, .identifier i ∈ ts → i.WellFormed := fun i hi =>
      hts i (List.mem_cons_of_mem s hi)
    cases s with
    | char c =>
      rw [List.map_cons, piece, Line.joined_text_text]
      refine ih hts' ?_
      rwa [List.append_assoc]
    | identifier i =>
      have htag : Piece.settledSaid keeps (r.piece (.identifier i)) = i.text :=
        r.identifierText_prepared (hts i List.mem_cons_self) _
      have hsplit : '\n' ∉ t ∧ '\n' ∉ written ts := by
        rw [written_cons, List.mem_append, List.mem_append, not_or, not_or] at hfeed
        exact ⟨hfeed.1, hfeed.2.2⟩
      have hrest := @ih [] hts' hsplit.2
      rw [List.map_cons, piece, Line.joined_text_tag, List.flatMap_append, List.flatMap_cons,
        settledSaid_textPiece hsplit.1, settledTokens, ← hrest, List.append_assoc]
      exact congrArg (fun u => settledRun keeps t ++ (u ++ _)) htag

/-- What any reader reads in a line is what it makes of its tokens. -/
theorem readBy_eq (r : Renderer) {t : Text} (ht : '\n' ∉ t) :
    r.readBy keeps t = settledTokens keeps [] (LiveText.tokens t) := by
  have hjoined := @settledSaid_joined keeps r (LiveText.tokens t) []
    (fun i hi => (reading_tokens t).wellFormed hi) (by rwa [List.nil_append, written_tokens])
  rw [readBy, Line.joined_prepared, Line.prepared, joined_line, Line.said, List.map_map,
    List.map_map, List.flatMap_map]
  exact hjoined

end Renderer

/-- **What any reader makes of a text that was rendered.** -/
theorem rawTextOf_readWith_render_eq (r : Renderer) (raw : Text) :
    rawTextOf (readWith keeps (r.render raw)) = reread keeps raw := by
  rw [rawTextOf_readWith_render_readBy, reread,
    List.map_congr_left fun t ht => r.readBy_eq (feed_notMem_lines t ht)]

/-- What the reader makes of it. -/
theorem rawText_render_eq (r : Renderer) (raw : Text) :
    rawText (r.render raw) = reread keepsBlanks raw :=
  rawTextOf_readWith_render_eq r raw

/-! ## What is written behind a text -/

theorem settledTokens_concat_identifier (t : Text) (ts : List LiveText.Token) (i : Identifier) :
    settledTokens keeps t (ts ++ [.identifier i]) = settledTokens keeps t ts ++ i.text := by
  induction ts generalizing t with
  | nil => exact List.append_nil _
  | cons s ts ih =>
    cases s with
    | char c => exact ih (t ++ [c])
    | identifier j =>
      rw [List.cons_append, settledTokens, settledTokens, ih, List.append_assoc _ _ i.text]

/-- Only a text of gaps is shortened. -/
theorem settledText_of_not_gap {t : Text} (h : ¬t.all isGap = true) : settledText keeps t = t := by
  have hshort : Assembly.shortenBlanks t = t := if_neg h
  rw [settledText, settledIn, hshort, ite_self]

/-- A space behind a text that does not end in a gap is left as it is. -/
theorem settledRun_concat_space {t : Text} (ht : ∀ c ∈ t.getLast?, isGap c = false) :
    settledRun keeps (t ++ [' ']) = settledRun keeps t ++ [' '] := by
  have hspace : (t ++ [' ']).map preparedChar = t.map preparedChar ++ [' '] := List.map_append
  have hrun : settledRun keeps (t ++ [' ']) = settledText keeps (t.map preparedChar ++ [' ']) := by
    rw [settledRun, if_neg (by simp), hspace]
  cases hlast : t.getLast? with
  | none =>
    rw [List.getLast?_eq_none_iff] at hlast
    subst hlast
    exact hrun.trans (ite_self _)
  | some c =>
    have hc : isGap (preparedChar c) = false := Bool.eq_false_iff.2 fun h => by
      have hgap := ht c hlast
      rw [isGap_of_preparedChar h] at hgap
      exact Bool.noConfusion hgap
    obtain ⟨u, rfl⟩ := List.getLast?_eq_some_iff.1 hlast
    have hmem : preparedChar c ∈ (u ++ [c]).map preparedChar :=
      List.mem_map_of_mem (List.mem_append_right u List.mem_cons_self)
    have hnot : ∀ w : Text, ¬(((u ++ [c]).map preparedChar ++ w).all isGap = true) := fun w h => by
      have := List.all_eq_true.1 h _ (List.mem_append_left w hmem)
      rw [hc] at this
      exact Bool.noConfusion this
    have hnil := hnot []
    rw [List.append_nil] at hnil
    rw [hrun, settledText_of_not_gap (hnot [' ']), settledRun, if_neg (by simp),
      settledText_of_not_gap hnil]

theorem settledTokens_concat_space {t : Text} {ts : List LiveText.Token}
    (ht : ∀ c ∈ (t ++ written ts).getLast?, isGap c = false) :
    settledTokens keeps t (ts ++ [.char ' ']) = settledTokens keeps t ts ++ [' '] := by
  induction ts generalizing t with
  | nil =>
    rw [written_nil, List.append_nil] at ht
    exact settledRun_concat_space ht
  | cons s ts ih =>
    cases s with
    | char c =>
      refine ih ?_
      rwa [List.append_assoc]
    | identifier j =>
      have hrest : ∀ c ∈ ([] ++ written ts).getLast?, isGap c = false := by
        intro c hc
        refine ht c ?_
        rw [List.nil_append, Option.mem_def] at hc
        rw [written_cons, List.getLast?_append, List.getLast?_append, hc, Option.some_or]
        rfl
      rw [List.cons_append, settledTokens, settledTokens, ih hrest, List.append_assoc _ _ [' ']]

theorem isBlank_preparedChar {c : Char} (h : isBlank c = true) : isBlank (preparedChar c) = true := by
  rw [preparedChar]
  split
  · decide
  · split
    · next hnull =>
      have hc : c = Char.ofNat 0 := by rw [← hnull, Char.ofNat_toNat]
      rw [hc] at h
      exact absurd h (by decide)
    · exact h

theorem endsBlank_settledRun {t : Text} (ht : t.EndsBlank) : EndsBlank (settledRun keeps t) := by
  obtain ⟨u, c, hc, rfl⟩ := ht
  have hprepared : EndsBlank ((u ++ [c]).map preparedChar) :=
    ⟨u.map preparedChar, preparedChar c, isBlank_preparedChar hc, List.map_append⟩
  rw [settledRun, if_neg (by simp), settledText, settledIn, Assembly.shortenBlanks]
  split
  · exact hprepared
  · split
    · split
      · exact ⟨[], '\n', by decide, rfl⟩
      · exact ⟨[], ' ', by decide, rfl⟩
    · exact hprepared

/-- What ends in a blank does so still. -/
theorem endsBlank_settledTokens {t : Text} {ts : List LiveText.Token}
    (hts : ∀ i, .identifier i ∈ ts → i.WellFormed) (ht : EndsBlank (t ++ written ts)) :
    EndsBlank (settledTokens keeps t ts) := by
  induction ts generalizing t with
  | nil =>
    rw [written_nil, List.append_nil] at ht
    exact endsBlank_settledRun ht
  | cons s ts ih =>
    have hts' : ∀ i, .identifier i ∈ ts → i.WellFormed := fun i hi =>
      hts i (List.mem_cons_of_mem s hi)
    cases s with
    | char c =>
      refine ih hts' ?_
      rwa [List.append_assoc]
    | identifier j =>
      -- an identifier ends in no blank, so the blank is behind it
      have hend : EndsBlank (written ts) := by
        rw [written_cons, Token.text, ← List.append_assoc] at ht
        refine ht.right.resolve_left fun hnil => ?_
        rw [hnil, List.append_nil] at ht
        obtain ⟨u, c, hc, hlast⟩ := ht.right.resolve_left j.text_ne_nil
        have hblank := (hts j List.mem_cons_self).not_isBlank c (hlast ▸ by simp)
        rw [hc] at hblank
        exact Bool.noConfusion hblank
      exact (ih hts' hend).append _

theorem isBlank_of_isGap {c : Char} (h : isGap c = true) : isBlank c = true := by
  simp only [isGap, Bool.or_eq_true, beq_iff_eq] at h
  rcases h with (((rfl | rfl) | rfl) | rfl) | rfl <;> decide

theorem endsOpen_settledTokens {l : Text} (h : l.EndsOpen) :
    EndsOpen (settledTokens keeps [] (LiveText.tokens l)) := by
  rcases h with rfl | h
  · rw [LiveText.tokens, tokensAfter_nil]
    exact endsOpen_nil
  · refine .inr (endsBlank_settledTokens (fun j => (reading_tokens l).wellFormed) ?_)
    rwa [List.nil_append, written_tokens]

/-! ## The text as a whole -/

/-- What is read again, where the last line is known. -/
theorem reread_eq {raw : Text} {ls : List Text} {l : Text}
    (h : lines (separate (unifyLineEnds raw)) = ls ++ [l]) :
    reread keeps raw = separate (joinLines
      (ls.map (fun m => settledTokens keeps [] (LiveText.tokens m)) ++
        [settledTokens keeps [] (LiveText.tokens l)])) := by
  rw [reread, h, List.map_append, List.map_singleton]

theorem endsOpen_separate_unifyLineEnds {raw : Text} (h : raw.EndsOpen) :
    EndsOpen (separate (unifyLineEnds raw)) :=
  endsOpen_separate ((endsOpen_congr (getLast?_unifyLineEnds raw)).2 h)

/-- What is empty or ends in a blank does so when it is read again. -/
theorem endsOpen_reread {raw : Text} (h : raw.EndsOpen) : EndsOpen (reread keeps raw) := by
  obtain ⟨ls, l, hlines, -⟩ := exists_lines_append (separate (unifyLineEnds raw))
  have hlast := endsOpen_of_lines hlines (endsOpen_separate_unifyLineEnds h)
  rw [reread_eq hlines]
  exact endsOpen_separate (endsOpen_joinLines (endsOpen_settledTokens hlast) _)

/-- **An identifier behind a blank** is read again as it is, and so is what stands in front of it. -/
theorem reread_append_text {raw : Text} (h : raw.EndsOpen) {i : Identifier} (hi : i.WellFormed) :
    reread keeps (raw ++ i.text) = reread keeps raw ++ i.text := by
  have hreturn : '\r' ∉ i.text := hi.notMem_text (by decide)
  have hfeed : '\n' ∉ i.text := hi.notMem_text (by decide)
  have hunified : EndsOpen (unifyLineEnds raw) := (endsOpen_congr (getLast?_unifyLineEnds raw)).2 h
  have hwhole : separate (unifyLineEnds (raw ++ i.text)) =
      separate (unifyLineEnds raw) ++ i.text := by
    have happend : unifyLineEnds (raw ++ i.text) = unifyLineEnds raw ++ unifyLineEnds i.text :=
      unifyLineEnds_append (by decide) raw i.body
    rw [happend, unifyLineEnds_of_no_return hreturn, separate_append hunified, separate_text hi]
  obtain ⟨ls, l, hlines, hgo⟩ := exists_lines_append (separate (unifyLineEnds raw))
  have hlines' := hgo i.text hfeed
  rw [← hwhole] at hlines'
  have hlast : l.EndsOpen := endsOpen_of_lines hlines (endsOpen_separate_unifyLineEnds h)
  rw [reread_eq hlines', reread_eq hlines, tokens_append hlast, tokens_text hi,
    settledTokens_concat_identifier, joinLines_concat_append,
    separate_append (endsOpen_joinLines (endsOpen_settledTokens hlast) _), separate_text hi]

/-- **A space behind a text that does not end in a blank** is read again as it is. -/
theorem reread_append_space {raw : Text} (h : ¬raw.EndsBlank) :
    reread keeps (raw ++ [' ']) = reread keeps raw ++ [' '] := by
  have hspace : isBlank ' ' = true := by decide
  have hwhole : separate (unifyLineEnds (raw ++ [' '])) = separate (unifyLineEnds raw) ++ [' '] := by
    have happend : unifyLineEnds (raw ++ [' ']) = unifyLineEnds raw ++ [' '] :=
      unifyLineEnds_append (by decide) raw []
    rw [happend, separate_concat hspace]
  obtain ⟨ls, l, hlines, hgo⟩ := exists_lines_append (separate (unifyLineEnds raw))
  have hlines' := hgo [' '] (by decide)
  rw [← hwhole] at hlines'
  -- the last line ends in no gap, since the text ends in no blank
  have hlast : ∀ c ∈ ([] ++ written (LiveText.tokens l)).getLast?, isGap c = false := by
    intro c hc
    rw [List.nil_append, written_tokens] at hc
    refine Bool.eq_false_iff.2 fun hgap => h ?_
    have hend : l.EndsBlank := endsBlank_iff.2 ⟨c, hc, isBlank_of_isGap hgap⟩
    obtain ⟨u, hu, -⟩ := exists_joinLines_concat ls l
    rw [← hlines, joinLines_lines] at hu
    have hseparated : EndsBlank (separate (unifyLineEnds raw)) := hu ▸ hend.append u
    exact (endsBlank_congr (getLast?_unifyLineEnds raw)).1
      ((endsBlank_congr (getLast?_separateAfter none _)).1 hseparated)
  rw [reread_eq hlines', reread_eq hlines, tokens_concat hspace, settledTokens_concat_space hlast,
    joinLines_concat_append, separate_concat hspace]

end LiveText
