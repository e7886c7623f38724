import LiveText.Proofs.Identifier.Pieces

/-!
# What is written behind a blank

Behind a blank a text goes on as if it began there: what is read of its two parts is what is read of
each of them (`tokens_append`), and no gap is missing between them (`separate_append`). The same holds
for its lines, but that the last one goes on (`exists_lines_append`).

`Text.EndsBlank` says of a text that it ends in a blank, `Text.EndsOpen` that it ends in one or is
empty.
-/

set_option autoImplicit false

namespace LiveText

open Text Identifier

/-! ## The end of a text -/

/-- The text ends in a blank. -/
def Text.EndsBlank (t : Text) : Prop := ∃ u c, isBlank c = true ∧ t = u ++ [c]

theorem Text.EndsBlank.append {t : Text} (h : t.EndsBlank) (u : Text) : EndsBlank (u ++ t) := by
  obtain ⟨v, c, hc, rfl⟩ := h
  exact ⟨u ++ v, c, hc, (List.append_assoc ..).symm⟩

theorem Text.endsBlank_iff {t : Text} : t.EndsBlank ↔ ∃ c ∈ t.getLast?, isBlank c = true := by
  constructor
  · rintro ⟨u, c, hc, rfl⟩
    exact ⟨c, List.getLast?_concat, hc⟩
  · rintro ⟨c, hlast, hc⟩
    obtain ⟨u, rfl⟩ := List.getLast?_eq_some_iff.1 hlast
    exact ⟨u, c, hc, rfl⟩

theorem Text.endsBlank_congr {t u : Text} (h : t.getLast? = u.getLast?) :
    t.EndsBlank ↔ u.EndsBlank := by
  rw [endsBlank_iff, endsBlank_iff, h]

/-- The text ends in a blank, or there is nothing in it: what is written behind it stands as it would
at the start of a text. -/
def Text.EndsOpen (t : Text) : Prop := t = [] ∨ t.EndsBlank

theorem Text.endsOpen_nil : EndsOpen [] := .inl rfl

theorem Text.endsOpen_congr {t u : Text} (h : t.getLast? = u.getLast?) : t.EndsOpen ↔ u.EndsOpen := by
  rw [EndsOpen, EndsOpen, endsBlank_congr h, ← List.getLast?_eq_none_iff, h,
    List.getLast?_eq_none_iff]

/-- The last part of a text ends like the text, if there is anything in it. -/
theorem Text.EndsBlank.right {t u : Text} (h : EndsBlank (t ++ u)) : u.EndsOpen := by
  rw [endsBlank_iff, List.getLast?_append] at h
  cases hu : u.getLast? with
  | none => exact .inl (List.getLast?_eq_none_iff.1 hu)
  | some c =>
    rw [hu] at h
    exact .inr (endsBlank_iff.2 (hu ▸ h))

/-- Unified line ends leave the last character as it is. -/
theorem getLast?_unifyLineEnds (t : Text) : (unifyLineEnds t).getLast? = t.getLast? := by
  fun_induction unifyLineEnds t with
  | case1 => rfl
  | case2 cs ih => rw [List.getLast?_cons, List.getLast?_cons, List.getLast?_cons, ih, Option.getD_some]
  | case3 c cs h ih => rw [List.getLast?_cons, List.getLast?_cons, ih]

/-- Only a line feed goes together with what stands in front of it. -/
theorem unifyLineEnds_append {c : Char} (hc : c ≠ '\n') (t u : Text) :
    unifyLineEnds (t ++ c :: u) = unifyLineEnds t ++ unifyLineEnds (c :: u) := by
  fun_induction unifyLineEnds t with
  | case1 => rfl
  | case2 cs ih =>
    rw [List.cons_append, List.cons_append, unifyLineEnds, ih]
    rfl
  | case3 d cs h ih =>
    rw [List.cons_append, unifyLineEnds, ih]
    · rfl
    · rintro es rfl hcs
      cases cs with
      | nil => exact hc (List.cons.inj hcs).1
      | cons e cs => exact h cs rfl (congrArg (· :: cs) (List.cons.inj hcs).1)

/-! ## The tokens of two parts -/

/-- An identifier may start behind a blank as it may at the start of a text. -/
theorem opensAfter_of_isBlank {c : Char} (h : isBlank c = true) :
    opensAfter (some c) = opensAfter none := by
  have hword : isWord c = false := Bool.eq_false_iff.2 fun hw => by
    have hname := isNameChar_of_isWord hw
    rw [not_isNameChar_of_isBlank h] at hname
    exact Bool.noConfusion hname
  rw [opensAfter, opensAfter, hword]
  rfl

theorem not_at_of_isBlank {c : Char} (h : isBlank c = true) : c ≠ '@' :=
  ne_of_class h (by decide)

/-- **The tokens of a text that goes on behind a blank** are those of its parts. -/
theorem tokens_append {t : Text} (h : t.EndsOpen) (u : Text) :
    tokens (t ++ u) = tokens t ++ tokens u := by
  rcases h with rfl | ⟨v, c, hc, rfl⟩
  · have hnil : tokens [] = [] := tokensAfter_nil none
    rw [hnil]
    rfl
  · have hgo : ∀ w, tokens (v ++ c :: w) = tokens v ++ .char c :: tokens w := by
      intro w
      have hcut := (reading_tokens v).tokensAfter_append (isStop_of_isBlank hc)
        (not_at_of_isBlank hc) w
      rw [written_tokens, tokensAfter_congr (opensAfter_of_isBlank hc)] at hcut
      exact hcut
    have hnil : tokens [] = [] := tokensAfter_nil none
    rw [List.append_assoc, List.singleton_append, hgo, hgo, hnil, List.append_assoc]
    rfl

/-- A blank is a token of its own. -/
theorem tokens_concat {c : Char} (hc : isBlank c = true) (t : Text) :
    tokens (t ++ [c]) = tokens t ++ [.char c] := by
  have hcut := (reading_tokens t).tokensAfter_append (isStop_of_isBlank hc) (not_at_of_isBlank hc) []
  rwa [written_tokens, tokensAfter_nil] at hcut

/-- Blanks stand in no identifier. -/
theorem Identifier.WellFormed.notMem_text {i : Identifier} (hi : i.WellFormed) {c : Char}
    (hc : isBlank c = true) : c ∉ i.text := fun hmem => by
  have hblank := hi.not_isBlank c hmem
  rw [hc] at hblank
  exact Bool.noConfusion hblank

/-- An identifier is one token. -/
theorem tokens_text {i : Identifier} (hi : i.WellFormed) : tokens i.text = [.identifier i] := by
  have htoken := @tokensAfter_some none i [] rfl (standsBefore_nil hi)
  rwa [List.append_nil, tokensAfter_nil] at htoken

/-! ## Separating two parts -/

/-- Of the character in front of a text it only matters whether an identifier may start behind it. -/
theorem separateAfter_congr {p q : Option Char} (h : opensAfter p = opensAfter q) (t : Text) :
    separateAfter p t = separateAfter q t := by
  have hread : readAfter p t = readAfter q t := by rw [readAfter, readAfter, h]
  cases hr : readAfter p t with
  | none =>
    cases t with
    | nil => rw [separateAfter_nil, separateAfter_nil]
    | cons c cs => rw [separateAfter_none hr, separateAfter_none (hread ▸ hr)]
  | some r =>
    obtain ⟨ho, ht, hi⟩ := readAfter_eq_some_iff.1 hr
    rw [ht, separateAfter_some ho hi, separateAfter_some (h ▸ ho) hi]

theorem needsGap_append_stop {c : Char} (hc : isStop c = true) (hat : c ≠ '@') (i : Identifier)
    (t u : Text) : i.needsGap (t ++ c :: u) = i.needsGap t := by
  have hbare : startsBare (t ++ c :: u) = startsBare t := by
    cases t with
    | nil => exact startsBare_of_ne_at hat u
    | cons d t => exact startsBare_append_stop (stops_cons hc u) d t
  rw [needsGap, needsGap, hbare]

/-- Behind a stop that opens no identifier a text is separated on its own. -/
theorem separateAfter_append_stop {c : Char} (hc : isStop c = true) (hat : c ≠ '@')
    (prev : Option Char) (t u : Text) :
    separateAfter prev (t ++ c :: u) = separateAfter prev t ++ c :: separateAfter (some c) u := by
  fun_induction separateAfter prev t with
  | case1 prev t i r h hgap ih =>
    obtain ⟨ho, rfl, hi⟩ := readAfter_eq_some_iff.1 h
    have hgap' : i.needsGap (r ++ c :: u) = true := (needsGap_append_stop hc hat i r u).trans hgap
    rw [List.append_assoc, separateAfter_gap ho (hi.congr (sameStart_append (stops_cons hc u) r)) hgap', ih,
      List.append_assoc]
    rfl
  | case2 prev t i r h hgap ih =>
    obtain ⟨ho, rfl, hi⟩ := readAfter_eq_some_iff.1 h
    have hgap' : i.needsGap (r ++ c :: u) = false :=
      (needsGap_append_stop hc hat i r u).trans (Bool.eq_false_iff.2 hgap)
    rw [List.append_assoc, separateAfter_noGap ho (hi.congr (sameStart_append (stops_cons hc u) r)) hgap',
      ih, List.append_assoc]
  | case3 prev h =>
    rw [List.nil_append, separateAfter_none (readAfter_of_ne_at prev hat u)]
    rfl
  | case4 prev d ds h ih =>
    rw [List.cons_append,
      separateAfter_none (readAfter_none_congr h (sameStart_append (stops_cons hc u) ds) rfl), ih]
    rfl

theorem separate_concat {c : Char} (hc : isBlank c = true) (t : Text) :
    separate (t ++ [c]) = separate t ++ [c] := by
  have hcut := separateAfter_append_stop (isStop_of_isBlank hc) (not_at_of_isBlank hc) none t []
  rwa [separateAfter_nil] at hcut

/-- **A text that goes on behind a blank is separated** by separating its parts. -/
theorem separate_append {t : Text} (h : t.EndsOpen) (u : Text) :
    separate (t ++ u) = separate t ++ separate u := by
  rcases h with rfl | ⟨v, c, hc, rfl⟩
  · have hnil : separate [] = [] := separateAfter_nil none
    rw [hnil]
    rfl
  · have hcut := separateAfter_append_stop (isStop_of_isBlank hc) (not_at_of_isBlank hc) none v u
    rw [separateAfter_congr (opensAfter_of_isBlank hc)] at hcut
    rw [separate_concat hc, List.append_assoc, List.append_assoc]
    exact hcut

theorem separate_text {i : Identifier} (hi : i.WellFormed) : separate i.text = i.text := by
  have htokens := tokens_text hi
  have hreading := reading_tokens i.text
  rw [htokens] at hreading
  have hseparate := separate_written hreading ⟨by simp [needsGap, startsBare], trivial⟩
  rwa [← htokens, written_tokens] at hseparate

/-- Separating leaves the last character as it is. -/
theorem getLast?_separateAfter (prev : Option Char) (t : Text) :
    (separateAfter prev t).getLast? = t.getLast? := by
  fun_induction separateAfter prev t with
  | case1 prev t i r h hgap ih =>
    obtain ⟨-, rfl, -⟩ := readAfter_eq_some_iff.1 h
    obtain ⟨v, rfl⟩ := at_of_needsGap hgap
    rw [List.getLast?_append, List.getLast?_append, List.getLast?_cons, ih, List.getLast?_cons]
    rfl
  | case2 prev t i r h hgap ih =>
    obtain ⟨-, rfl, -⟩ := readAfter_eq_some_iff.1 h
    rw [List.getLast?_append, List.getLast?_append, ih]
  | case3 => rfl
  | case4 prev d ds h ih => rw [List.getLast?_cons, List.getLast?_cons, ih]

theorem endsOpen_separate {t : Text} (h : t.EndsOpen) : EndsOpen (separate t) :=
  (endsOpen_congr (getLast?_separateAfter none t)).2 h

/-! ## The lines of two parts -/

/-- The last line of a text goes on with what is written behind it. -/
theorem exists_lines_append (t : Text) : ∃ ls l, lines t = ls ++ [l] ∧
    ∀ u, '\n' ∉ u → lines (t ++ u) = ls ++ [l ++ u] := by
  induction t with
  | nil =>
    refine ⟨[], [], rfl, fun u hu => ?_⟩
    induction u with
    | nil => rfl
    | cons c u ih =>
      rw [List.mem_cons, not_or] at hu
      exact pieces_cons_of_ne (Ne.symm hu.1) (ih hu.2)
  | cons c t ih =>
    obtain ⟨ls, l, hlines, happend⟩ := ih
    by_cases hc : c = '\n'
    · refine ⟨[] :: ls, l, ?_, fun u hu => ?_⟩
      · rw [hc, lines_cons_feed, hlines, List.cons_append]
      · rw [List.cons_append, hc, lines_cons_feed, happend u hu, List.cons_append]
    · cases ls with
      | nil =>
        exact ⟨[], c :: l, pieces_cons_of_ne hc hlines,
          fun u hu => pieces_cons_of_ne hc (happend u hu)⟩
      | cons m ls =>
        exact ⟨(c :: m) :: ls, l, pieces_cons_of_ne hc hlines,
          fun u hu => pieces_cons_of_ne hc (happend u hu)⟩

theorem joinLines_concat_append (ls : List Text) (l u : Text) :
    joinLines (ls ++ [l ++ u]) = joinLines (ls ++ [l]) ++ u := by
  induction ls with
  | nil => rfl
  | cons m ls ih =>
    cases ls with
    | nil => exact (List.append_assoc m ('\n' :: l) u).symm
    | cons k ls =>
      change m ++ '\n' :: joinLines (k :: ls ++ [l ++ u]) =
        m ++ '\n' :: joinLines (k :: ls ++ [l]) ++ u
      rw [ih, List.append_assoc]
      rfl

/-- A text ends like its last line. -/
theorem exists_joinLines_concat (ls : List Text) (l : Text) :
    ∃ u, joinLines (ls ++ [l]) = u ++ l ∧ u.EndsOpen := by
  have hfeed : isBlank '\n' = true := by decide
  induction ls with
  | nil => exact ⟨[], rfl, endsOpen_nil⟩
  | cons m ls ih =>
    obtain ⟨u, hu, hend⟩ := ih
    refine ⟨m ++ '\n' :: u, ?_, .inr ?_⟩
    · have hjoin : joinLines (m :: (ls ++ [l])) = m ++ '\n' :: joinLines (ls ++ [l]) := by
        cases ls <;> rfl
      rw [List.cons_append, hjoin, hu, List.append_assoc]
      rfl
    · rcases hend with rfl | hend
      · exact ⟨m, '\n', hfeed, rfl⟩
      · exact (hend.append ['\n']).append m

/-- The last line of a text ends like the text. -/
theorem endsOpen_of_lines {t : Text} {ls : List Text} {l : Text} (h : lines t = ls ++ [l])
    (ht : t.EndsOpen) : l.EndsOpen := by
  obtain ⟨u, hu, -⟩ := exists_joinLines_concat ls l
  rw [← h, joinLines_lines] at hu
  rcases ht with rfl | ht
  · exact .inl (List.append_eq_nil_iff.1 hu.symm).2
  · rw [hu] at ht
    exact ht.right

theorem endsOpen_joinLines {l : Text} (h : l.EndsOpen) (ls : List Text) :
    EndsOpen (joinLines (ls ++ [l])) := by
  obtain ⟨u, hu, hend⟩ := exists_joinLines_concat ls l
  rw [hu]
  rcases h with rfl | h
  · rwa [List.append_nil]
  · exact .inr (h.append u)

end LiveText
