import LiveText.Proofs.Identifier.Separation

/-!
# The tokens of a part of a text

A text is cut at its line feeds, and a line is cut at its identifiers. What is found in a part is
what was found there before, under a condition on each of its ends: behind the part the text goes on
with a stop, which nothing in front of it looks past (`Reading.left`), and in front of the part an
identifier may start (`Reading.unhook`), or else nothing in the part looks like one from its first
characters. In a separated text the second condition holds behind every identifier
(`Reading.behind`).

## What is here

* `tokens_line`: the tokens of a text with a line feed in it are those of its two sides.
* `substitute_joinLines`: so identifiers can be replaced line by line.
* `noGap_of_mem_lines`: the lines of a separated text are separated.
-/

set_option autoImplicit false

namespace LiveText

open Text Identifier

/-! ## Putting together -/

/-- Characters make up the text that they are the characters of. -/
@[simp]
theorem written_chars (t : Text) : written (t.map Token.char) = t := by
  induction t with
  | nil => rfl
  | cons c t ih =>
    rw [List.map_cons, written_cons, ih]
    rfl

theorem substitute_append (f : Identifier → Text) (us vs : List Token) :
    substitute f (us ++ vs) = substitute f us ++ substitute f vs :=
  List.flatMap_append

/-- Where no identifier is, nothing is replaced. -/
theorem substitute_chars (f : Identifier → Text) (t : Text) :
    substitute f (t.map Token.char) = t := by
  have hnone : ∀ i, .identifier i ∈ t.map Token.char → f i = i.text := by
    intro i hi
    obtain ⟨c, -, hc⟩ := List.mem_map.1 hi
    cases hc
  rw [substitute_congr hnone, substitute_text, written_chars]

/-- Behind a stop that opens no identifier a text is taken apart on its own. -/
theorem Reading.tokensAfter_append {prev : Option Char} {ts : List Token} (h : Reading prev ts)
    {c : Char} (hc : isStop c = true) (hat : c ≠ '@') (t : Text) :
    tokensAfter prev (written ts ++ c :: t) = ts ++ .char c :: tokensAfter (some c) t := by
  have hstart : ∀ us : List Token, SameStart (written us) (written us ++ c :: t) :=
    fun us => sameStart_append (stops_cons hc t) (written us)
  induction h with
  | nil prev => exact tokensAfter_none (readAfter_of_ne_at prev hat t)
  | @char prev d ts h _ ih =>
    rw [written_cons, Token.text, List.singleton_append, List.cons_append,
      tokensAfter_none (readAfter_none_congr h (hstart ts) rfl), ih]
    rfl
  | @identifier prev i ts ho h _ ih =>
    rw [written_cons, Token.text, List.append_assoc, tokensAfter_some ho (h.congr (hstart ts)), ih]
    rfl

/-- **The tokens of two lines** are the tokens of each of them. -/
theorem tokens_line (t u : Text) :
    tokens (t ++ '\n' :: u) = tokens t ++ .char '\n' :: tokens u := by
  have h := (reading_tokens t).tokensAfter_append (c := '\n') (by decide) (by decide) u
  rw [written_tokens, tokensAfter_congr (p := some '\n') (q := none) (by decide)] at h
  exact h

/-- **Identifiers are replaced line by line.** -/
theorem substitute_joinLines (f : Identifier → Text) (ls : List Text) :
    substitute f (tokens (joinLines ls)) =
      joinLines (ls.map fun l => substitute f (tokens l)) := by
  induction ls with
  | nil => exact congrArg (substitute f) (tokensAfter_nil none)
  | cons l ls ih =>
    cases ls with
    | nil => rfl
    | cons m ls =>
      rw [joinLines_cons_cons, tokens_line, substitute_append]
      exact congrArg (substitute f (tokens l) ++ '\n' :: ·) ih

/-! ## Taking apart -/

/-- The part of a reading in front of a stop is a reading. -/
theorem Reading.left {prev : Option Char} {us vs : List Token} (h : Reading prev (us ++ vs))
    (hvs : Stops (written vs)) : Reading prev us := by
  have hstart : ∀ us : List Token, SameStart (written (us ++ vs)) (written us) := fun us =>
    ⟨written us, written vs, [], written_append us vs, (List.append_nil _).symm, hvs, stops_nil⟩
  induction us generalizing prev with
  | nil => exact .nil prev
  | cons u us ih =>
    cases h with
    | char h rest => exact .char (readAfter_none_congr h (hstart us) rfl) (ih rest)
    | identifier ho h rest => exact .identifier ho (h.congr (hstart us)) (ih rest)

/-- What follows characters is a reading behind the last one of them. -/
theorem Reading.right {prev : Option Char} {t : Text} {ts : List Token}
    (h : Reading prev (t.map Token.char ++ ts)) : Reading (t.getLast?.or prev) ts := by
  induction t generalizing prev with
  | nil => exact h
  | cons c t ih =>
    cases h with
    | char _ rest =>
      rw [getLast?_cons_or]
      exact ih rest

/-- A reading that does not look like an identifier from its first characters is one wherever it
stands. -/
theorem Reading.unhook {prev : Option Char} {ts : List Token} (h : Reading prev ts)
    (hopen : opensAfter prev = true ∨ startsBare (written ts) = false) : Reading none ts := by
  cases h with
  | nil => exact .nil none
  | identifier _ h rest => exact .identifier rfl h rest
  | @char _ c ts h rest =>
    refine .char ?_ rest
    rcases hopen with ho | hbare
    · rwa [readAfter, if_pos ho] at h
    · rw [readAfter, if_pos (by rfl), Option.eq_none_iff_forall_ne_some]
      intro q hq
      have hstarts : startsBare (c :: written ts) = true := startsBare_of_read hq
      rw [written_cons, Token.text, List.singleton_append, hstarts] at hbare
      exact Bool.noConfusion hbare

/-- A legacy identifier ends in a mark, and an identifier may start right behind it. -/
theorem Identifier.opensAfter_lastChar_of_isLegacy {i : Identifier} (h : i.isLegacy = true) :
    opensAfter i.lastChar = true := by
  cases i with
  | legacy kind id field =>
    have htext : (legacy kind id field).text =
        ('@' :: (systemMark ++ (kind ++ '_' :: (id ++ '_' :: (field ++ ['-']))))) ++ ['='] := by
      simp [text, body]
    rw [lastChar, htext, List.getLast?_append]
    change opensAfter (some '=') = true
    decide
  | display source field shortId => exact Bool.noConfusion h
  | system id field => exact Bool.noConfusion h

/-- **What stands behind an identifier of a separated text** is found there on its own. -/
theorem Reading.behind {i : Identifier} {ts : List Token} (h : Reading i.lastChar ts)
    (hgap : i.needsGap (written ts) = false) : Reading none ts := by
  refine h.unhook ?_
  rw [needsGap, Bool.and_eq_false_iff, Bool.not_eq_false'] at hgap
  exact hgap.imp_left opensAfter_lastChar_of_isLegacy

/-- Where only characters are found, only characters are found in the text that they make up. -/
theorem Reading.tokens_chars {t : Text} (h : Reading none (t.map Token.char)) :
    tokens t = t.map Token.char := by
  have htokens := h.tokens_eq
  rwa [written_chars] at htokens

/-- Nothing is separated where no identifier is. -/
theorem separate_of_tokens_chars {t : Text} (h : tokens t = t.map Token.char) : separate t = t := by
  have hread : Reading none (t.map Token.char) := h ▸ reading_tokens t
  have hgap : ∀ u : Text, NoGap (u.map Token.char) := by
    intro u
    induction u with
    | nil => trivial
    | cons c u ih => exact ih
  simpa using separate_written hread (hgap t)

/-! ## Gaps -/

/-- No gap is missing behind a part of a text in which none is. -/
theorem NoGap.right {us vs : List Token} (h : NoGap (us ++ vs)) : NoGap vs := by
  induction us with
  | nil => exact h
  | cons u us ih =>
    cases u with
    | char c => exact ih h
    | identifier i => exact ih h.2

/-- Nor in front of a stop. -/
theorem NoGap.left {us vs : List Token} (h : NoGap (us ++ vs)) (hvs : Stops (written vs)) :
    NoGap us := by
  induction us with
  | nil => trivial
  | cons u us ih =>
    cases u with
    | char c => exact ih h
    | identifier i =>
      refine ⟨?_, ih h.2⟩
      have hgap : i.needsGap (written (us ++ vs)) = false := h.1
      rw [needsGap, written_append, Bool.and_eq_false_iff] at hgap
      rw [needsGap, Bool.and_eq_false_iff]
      refine hgap.imp_right fun hbare => ?_
      cases hus : written us with
      | nil => rfl
      | cons c t =>
        rw [hus, startsBare_append_stop hvs] at hbare
        exact hbare

theorem noGap_of_mem_joinLines {ls : List Text} (h : NoGap (tokens (joinLines ls))) :
    ∀ l ∈ ls, NoGap (tokens l) := by
  induction ls with
  | nil => simp
  | cons l ls ih =>
    cases ls with
    | nil => exact List.forall_mem_singleton.2 h
    | cons m ls =>
      rw [joinLines_cons_cons, tokens_line] at h
      have hstop : Stops (written (.char '\n' :: tokens (joinLines (m :: ls)))) :=
        stops_cons (by decide) _
      exact List.forall_mem_cons.2 ⟨h.left hstop, ih h.right⟩

/-- **No gap is missing in a line** of a separated text. -/
theorem noGap_of_mem_lines {t l : Text} (h : l ∈ lines (separate t)) : NoGap (tokens l) := by
  refine noGap_of_mem_joinLines ?_ l h
  rw [joinLines_lines]
  exact noGap_tokens_separate t

end LiveText
