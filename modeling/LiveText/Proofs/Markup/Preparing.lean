import LiveText.Proofs.Markup.Assembly

/-!
# Preparing what was written

Before a fragment is read its line ends are unified and its null characters replaced. This may be done
before the fragment is written just as well (`prepared_write`): the characters between the texts and
values are plain, and none of them is a line feed, so no line end reaches over the end of a text.
-/

set_option autoImplicit false

namespace LiveText.Markup

open Text

/-! ## Preparing, character by character -/

/-- What is read for a character that does not end a line together with the one behind it. -/
def preparedChar (c : Char) : Char :=
  if c = '\r' then '\n' else if c.toNat = 0 then Char.ofNat 0xFFFD else c

theorem prepared_cons {c : Char} {t : Text} (h : c = '\r' → t.head? ≠ some '\n') :
    prepared (c :: t) = preparedChar c :: prepared t := by
  rw [prepared]
  · rfl
  · rintro r rfl rfl
    exact h rfl rfl

theorem preparedChar_eq_self {c : Char} (hreturn : c ≠ '\r') (hnull : c.toNat ≠ 0) :
    preparedChar c = c := by
  rw [preparedChar, if_neg hreturn, if_neg hnull]

/-- The characters that preparing leaves alone, whatever stands behind them. -/
def isStable (c : Char) : Bool := c != '\r' && c.toNat != 0

theorem isStable_iff {c : Char} : isStable c = true ↔ c ≠ '\r' ∧ c.toNat ≠ 0 := by
  rw [isStable, Bool.and_eq_true, bne_iff_ne, bne_iff_ne]

theorem isStable_of_isPlain {c : Char} (h : isPlain c = true) : isStable c = true := by
  rw [isStable_iff]
  constructor
  · rintro rfl
    exact absurd h (by decide)
  · intro h0
    rw [isPlain, h0] at h
    have hc : c = '\t' ∨ c = '\n' := by simpa using h
    rcases hc with rfl | rfl
    · exact absurd h0 (by decide)
    · exact absurd h0 (by decide)

theorem stable_of_plain {t : Text} (h : t.all isPlain = true) : t.all isStable = true :=
  List.all_eq_true.2 fun c hc => isStable_of_isPlain (List.all_eq_true.1 h c hc)

/-- What preparing leaves is stable. -/
theorem isStable_preparedChar (c : Char) : isStable (preparedChar c) = true := by
  rw [preparedChar]
  split
  · decide
  · next hreturn =>
    split
    · decide
    · next hnull => exact isStable_iff.2 ⟨hreturn, hnull⟩

theorem stable_prepared (t : Text) : (prepared t).all isStable = true := by
  fun_induction prepared t with
  | case1 => rfl
  | case2 t ih =>
    rw [List.all_cons, ih]
    decide
  | case3 c t _ ih =>
    change (preparedChar c :: prepared t).all isStable = true
    rw [List.all_cons, isStable_preparedChar, ih]
    rfl

theorem prepared_append_of_stable {s : Text} (h : s.all isStable = true) (t : Text) :
    prepared (s ++ t) = s ++ prepared t := by
  induction s with
  | nil => rfl
  | cons c s ih =>
    rw [List.all_cons, Bool.and_eq_true, isStable_iff] at h
    obtain ⟨⟨hreturn, hnull⟩, hs⟩ := h
    rw [List.cons_append, prepared_cons fun hc => absurd hc hreturn,
      preparedChar_eq_self hreturn hnull, ih hs, List.cons_append]

theorem prepared_eq_self {t : Text} (h : t.all isStable = true) : prepared t = t := by
  have happend := prepared_append_of_stable h []
  rw [List.append_nil] at happend
  exact happend.trans (List.append_nil t)

/-- No line end reaches over a character that is no line feed. -/
theorem prepared_append {c : Char} (hc : c ≠ '\n') (s t : Text) :
    prepared (s ++ c :: t) = prepared s ++ prepared (c :: t) := by
  fun_induction prepared s with
  | case1 => rfl
  | case2 s ih =>
    change prepared ('\r' :: '\n' :: (s ++ c :: t)) = _
    rw [prepared, ih]
    rfl
  | case3 d s hline ih =>
    rw [List.cons_append, prepared_cons, ih]
    · rfl
    · rintro rfl hr
      cases s with
      | nil => exact hc (Option.some.inj hr)
      | cons e s =>
        obtain rfl : e = '\n' := Option.some.inj hr
        exact hline s rfl rfl

theorem prepared_ne_nil {t : Text} (h : t ≠ []) : prepared t ≠ [] := by
  fun_cases prepared t with
  | case1 => exact absurd rfl h
  | case2 => exact List.cons_ne_nil _ _
  | case3 => exact List.cons_ne_nil _ _

/-- Within a line there are no line ends to unify. -/
theorem prepared_of_no_feed {t : Text} (h : '\n' ∉ t) : prepared t = t.map preparedChar := by
  induction t with
  | nil => rfl
  | cons c t ih =>
    rw [List.mem_cons, not_or] at h
    rw [prepared_cons, ih h.2, List.map_cons]
    exact fun _ hhead => h.2 (List.mem_of_mem_head? hhead)

/-! ## References and values -/

/-- A way to write characters: as they are, or, if they are marks, as references. -/
def WritesReferences (f : Char → Text) : Prop :=
  ∀ c, f c = [c] ∨ c ∈ ['&', '<', '>', '"'] ∧ ∃ u, f c = '&' :: u ∧ u.all isPlain = true

theorem writesReferences_escapeChar : WritesReferences escapeChar := by
  intro c
  rcases escapeChar_cases c with rfl | rfl | rfl | ⟨-, -, hc⟩
  · exact .inr ⟨by decide, _, rfl, by decide⟩
  · exact .inr ⟨by decide, _, rfl, by decide⟩
  · exact .inr ⟨by decide, _, rfl, by decide⟩
  · exact .inl hc

theorem writesReferences_quot :
    WritesReferences fun c => if c = '"' then "&quot;".toList else [c] := by
  intro c
  by_cases hc : c = '"'
  · subst hc
    exact .inr ⟨by decide, _, rfl, by decide⟩
  · exact .inl (if_neg hc)

section
variable {f : Char → Text} (h : WritesReferences f)
include h

theorem WritesReferences.eq_singleton {c : Char} (hc : c ∉ ['&', '<', '>', '"']) : f c = [c] :=
  (h c).resolve_right fun hmark => hc hmark.1

/-- A character is written as a text that begins with it or with an ampersand. -/
theorem WritesReferences.head? (c : Char) (t : Text) :
    (f c ++ t).head? = some c ∨ (f c ++ t).head? = some '&' := by
  rcases h c with hc | ⟨-, u, hc, -⟩
  · rw [hc]
    exact .inl rfl
  · rw [hc]
    exact .inr rfl

/-- A text may be prepared before it is written or afterwards. -/
theorem WritesReferences.prepared_flatMap (t : Text) :
    prepared (t.flatMap f) = (prepared t).flatMap f := by
  have hreturn : f '\r' = ['\r'] := h.eq_singleton (by decide)
  have hfeed : f '\n' = ['\n'] := h.eq_singleton (by decide)
  fun_induction prepared t with
  | case1 => rfl
  | case2 t ih =>
    rw [List.flatMap_cons, List.flatMap_cons, hreturn, hfeed, List.flatMap_cons, hfeed, ← ih]
    rfl
  | case3 c t hline ih =>
    change _ = f (preparedChar c) ++ (prepared t).flatMap f
    rw [List.flatMap_cons, ← ih]
    by_cases hmark : c ∈ ['&', '<', '>', '"']
    · have hmarks : ['&', '<', '>', '"'].all isPlain = true := by decide
      have hplain : isPlain c = true := List.all_eq_true.1 hmarks c hmark
      obtain ⟨hr, hnull⟩ := isStable_iff.1 (isStable_of_isPlain hplain)
      have hall : (f c).all isPlain = true := by
        rcases h c with hc | ⟨-, u, hc, hu⟩
        · rw [hc, List.all_cons, hplain]
          rfl
        · rw [hc, List.all_cons, hu]
          decide
      rw [prepared_append_of_stable (stable_of_plain hall), preparedChar_eq_self hr hnull]
    · have hc : f (preparedChar c) = [preparedChar c] := by
        rw [preparedChar]
        split
        · exact hfeed
        · split
          · exact h.eq_singleton (by decide)
          · exact h.eq_singleton hmark
      rw [h.eq_singleton hmark, hc, List.singleton_append, List.singleton_append, prepared_cons]
      rintro rfl hhead
      cases t with
      | nil => cases hhead
      | cons d t =>
        rw [List.flatMap_cons] at hhead
        rcases h.head? d (t.flatMap f) with hd | hd
        · rw [hd] at hhead
          obtain rfl := Option.some.inj hhead
          exact hline t rfl rfl
        · rw [hd] at hhead
          cases hhead

end

theorem prepared_escape (t : Text) : prepared (escape t) = escape (prepared t) :=
  writesReferences_escapeChar.prepared_flatMap t

/-- Preparing leaves the other characters of a text where they are. -/
theorem mem_prepared {c : Char}
    (hc : c ∉ ['\r', '\n', Char.ofNat 0, Char.ofNat 0xFFFD]) {t : Text} :
    c ∈ prepared t ↔ c ∈ t := by
  simp only [List.mem_cons, List.not_mem_nil, or_false, not_or] at hc
  obtain ⟨hreturn, hfeed, hnull, hreplaced⟩ := hc
  have hchar : ∀ d, c = preparedChar d ↔ c = d := by
    intro d
    rw [preparedChar]
    split
    · next hd =>
      rw [hd]
      exact iff_of_false hfeed hreturn
    · split
      · next hd =>
        have hd : d = Char.ofNat 0 := by rw [← hd, Char.ofNat_toNat]
        rw [hd]
        exact iff_of_false hreplaced hnull
      · rfl
  fun_induction prepared t with
  | case1 => rfl
  | case2 t ih => simp [hreturn, hfeed, ih]
  | case3 d t _ ih =>
    change c ∈ preparedChar d :: prepared t ↔ _
    rw [List.mem_cons, List.mem_cons, hchar]
    exact or_congr_right ih

/-- What stands between two marks is prepared like a text. -/
theorem prepared_between {c : Char} (hc : isStable c = true) (hfeed : c ≠ '\n') (u t : Text) :
    prepared (c :: (u ++ [c]) ++ t) = c :: (prepared u ++ [c]) ++ prepared t := by
  have hcons : ∀ w : Text, prepared (c :: w) = c :: prepared w :=
    prepared_append_of_stable (s := [c]) (by rw [List.all_cons, hc]; rfl)
  have hassoc : c :: (u ++ [c]) ++ t = c :: (u ++ c :: t) := by simp
  rw [hassoc, hcons, prepared_append hfeed, hcons]
  simp

theorem prepared_quotedValue (v t : Text) :
    prepared (quotedValue v ++ t) = quotedValue (prepared v) ++ prepared t := by
  have hdouble : '"' ∈ escape (prepared v) ↔ '"' ∈ escape v := by
    rw [← prepared_escape, mem_prepared (by decide)]
  have hsingle : '\'' ∈ escape (prepared v) ↔ '\'' ∈ escape v := by
    rw [← prepared_escape, mem_prepared (by decide)]
  simp only [quotedValue, hdouble, hsingle]
  split
  · split
    · rw [prepared_between (by decide) (by decide), writesReferences_quot.prepared_flatMap,
        prepared_escape]
    · rw [prepared_between (by decide) (by decide), prepared_escape]
  · rw [prepared_between (by decide) (by decide), prepared_escape]

theorem isPlain_of_isNamed {c : Char} (h : isNamed c = true) : isPlain c = true := by
  rw [isNamed, Bool.or_eq_true, beq_iff_eq] at h
  rcases h with hlower | rfl
  · have hrange := isLower_iff.1 hlower
    have hletter : 32 ≤ c.toNat ∧ (c.toNat < 127 ∨ 159 < c.toNat) := by omega
    simp [isPlain, hletter]
  · decide

theorem stable_of_named {t : Text} (h : ∀ c ∈ t, isNamed c = true) : t.all isStable = true :=
  List.all_eq_true.2 fun c hc => isStable_of_isPlain (isPlain_of_isNamed (h c hc))

/-! ## Preparing paragraphs -/

/-- An attribute with its value prepared. -/
def Attribute.prepared (a : Attribute) : Attribute := { a with value := Markup.prepared a.value }

/-- A piece with its text, or its values and its label, prepared. -/
def Piece.prepared : Piece → Piece
  | text t => text (Markup.prepared t)
  | tag as label => tag (as.map Attribute.prepared) (Markup.prepared label)

/-- The content of a paragraph, with neighbouring texts joined and prepared. -/
def Line.prepared (l : Line) : Line := l.joined.map Piece.prepared

/-- The order of attributes is that of their names. -/
theorem ordered_prepared (as : List Attribute) :
    ordered (as.map Attribute.prepared) = (ordered as).map Attribute.prepared := by
  let le (a b : Attribute) : Bool := notAfter a.name b.name
  exact (List.map_mergeSort (f := Attribute.prepared) (r := le) (s := le) fun _ _ _ _ => rfl).symm

theorem prepared_writtenAttributes {as : List Attribute}
    (h : ∀ a ∈ as, a.name.all isStable = true) (t : Text) :
    prepared (writtenAttributes as ++ t) =
      writtenAttributes (as.map Attribute.prepared) ++ prepared t := by
  have hflat : ∀ bs : List Attribute, (∀ a ∈ bs, a.name.all isStable = true) →
      prepared (bs.flatMap Attribute.written ++ t) =
        (bs.map Attribute.prepared).flatMap Attribute.written ++ prepared t := by
    intro bs
    induction bs with
    | nil => exact fun _ => rfl
    | cons b bs ih =>
      intro hbs
      obtain ⟨hb, hbs⟩ := List.forall_mem_cons.1 hbs
      have hname : (' ' :: (b.name ++ ['='])).all isStable = true := by
        rw [List.all_cons, List.all_append, hb]
        decide
      have hwritten : ∀ c : Attribute, c.name = b.name →
          c.written = ' ' :: (b.name ++ ['=']) ++ quotedValue c.value := by
        intro c hc
        rw [Attribute.written, hc]
        simp
      rw [List.flatMap_cons, List.map_cons, List.flatMap_cons, hwritten b rfl,
        hwritten b.prepared rfl, List.append_assoc, List.append_assoc, List.append_assoc,
        prepared_append_of_stable hname, prepared_quotedValue, ih hbs, List.append_assoc]
      rfl
  have hsorted : ∀ cs : List Attribute, writtenAttributes cs = (ordered cs).flatMap Attribute.written :=
    fun _ => rfl
  rw [hsorted, hsorted, ordered_prepared]
  exact hflat _ fun a ha => h a (mem_ordered.1 ha)

section
variable {name : Text} (hname : name.all isStable = true)
include hname

theorem prepared_closingTag (t : Text) :
    prepared (closingTag name ++ t) = closingTag name ++ prepared t := by
  refine prepared_append_of_stable ?_ t
  rw [closingTag, List.all_cons, List.all_cons, List.all_append, hname]
  decide

variable {as : List Attribute} (has : ∀ a ∈ as, a.name.all isStable = true)
include has

/-- What a tag ends in may be any stable text. -/
theorem prepared_tag {e : Text} (he : e.all isStable = true) (t : Text) :
    prepared ('<' :: (name ++ writtenAttributes as ++ e) ++ t) =
      '<' :: (name ++ writtenAttributes (as.map Attribute.prepared) ++ e) ++ prepared t := by
  have hopen : ('<' :: name).all isStable = true := by
    rw [List.all_cons, hname]
    decide
  have hassoc : ∀ (bs : List Attribute) (u : Text),
      '<' :: (name ++ writtenAttributes bs ++ e) ++ u =
        '<' :: name ++ (writtenAttributes bs ++ (e ++ u)) := by
    intro bs u
    simp
  rw [hassoc, hassoc, prepared_append_of_stable hopen, prepared_writtenAttributes has,
    prepared_append_of_stable he]

theorem prepared_openingTag (t : Text) :
    prepared (openingTag name as ++ t) =
      openingTag name (as.map Attribute.prepared) ++ prepared t :=
  prepared_tag hname has (by decide) t

theorem prepared_emptyTag (t : Text) :
    prepared (emptyTag name as ++ t) = emptyTag name (as.map Attribute.prepared) ++ prepared t :=
  prepared_tag hname has (by decide) t

end

theorem Line.joined_prepared (l : Line) : l.prepared.joined = l.prepared :=
  joined_map_joined (fun _ ht => prepared_ne_nil ht) (fun _ => rfl) (fun _ _ => ⟨_, _, rfl⟩) l

theorem stable_span : spanName.all isStable = true := by decide

theorem stable_paragraph : paragraphName.all isStable = true := by decide

theorem writeAll_append (ms ns : List Node) :
    writeAll false (ms ++ ns) = writeAll false ms ++ writeAll false ns := by
  rw [writeAll_eq_flatMap, writeAll_eq_flatMap, writeAll_eq_flatMap, List.flatMap_append]

/-- The content of a paragraph, with a text in front of it that may still grow. A bracket stands
behind it. -/
theorem prepared_line {l : Line} (h : ∀ p ∈ l, p.Proper) (t rest : Text) :
    prepared (escape t ++ (writeAll false (l.map Piece.node) ++ '<' :: rest)) =
      writeAll false ((Line.prepared (.text t :: l)).map Piece.node) ++ prepared ('<' :: rest) := by
  have bracket : ∀ s u : Text, prepared (s ++ '<' :: u) = prepared s ++ prepared ('<' :: u) :=
    prepared_append (by decide)
  have htext : ∀ t : Text,
      writeAll false (((textPiece t).map Piece.prepared).map Piece.node) = prepared (escape t) := by
    intro t
    by_cases ht : t = []
    · subst ht
      rfl
    · rw [textPiece_of_ne_nil ht, prepared_escape]
      exact List.append_nil _
  induction l generalizing t with
  | nil =>
    rw [Line.prepared, Line.joined_text_nil, htext, List.map_nil, writeAll, List.nil_append, bracket]
  | cons p l ih =>
    obtain ⟨hp, hl⟩ := List.forall_mem_cons.1 h
    cases p with
    | text u =>
      rw [Line.prepared, Line.joined_text_text, ← Line.prepared, ← ih hl, escape_append, List.map_cons,
        writeAll_cons, Piece.node, write_prose, List.append_assoc, List.append_assoc]
    | tag as label =>
      have has : ∀ a ∈ as, a.name.all isStable = true := fun a ha => stable_of_named (hp.2.2 a ha).1.2
      have htag : prepared (openingTag spanName as ++ (escape label ++ (closingTag spanName ++
          (writeAll false (l.map Piece.node) ++ '<' :: rest)))) =
          writeAll false (((Piece.tag as label).prepared :: Line.prepared l).map Piece.node) ++
            prepared ('<' :: rest) := by
        rw [prepared_openingTag stable_span has, closingTag_append, bracket, ← closingTag_append,
          prepared_closingTag stable_span, prepared_escape, List.map_cons, writeAll_cons,
          Piece.prepared, write_tag, List.append_assoc, List.append_assoc, List.append_assoc]
        exact congrArg (fun w => openingTag spanName _ ++ (escape _ ++ (closingTag spanName ++ w)))
          (ih hl [])
      rw [List.map_cons, writeAll_cons, write_tag, Line.prepared, Line.joined_text_tag,
        List.map_append, List.map_append, writeAll_append, htext, List.append_assoc,
        List.append_assoc, List.append_assoc, List.append_assoc, openingTag_append, bracket,
        ← openingTag_append, htag]
      rfl

theorem prepared_paragraph {l : Line} (h : ∀ p ∈ l, p.Proper) (rest : Text) :
    prepared ((paragraph l).write false ++ rest) =
      (paragraph l.prepared).write false ++ prepared rest := by
  have hline := prepared_line h [] ('/' :: (paragraphName ++ '>' :: rest))
  rw [← closingTag_append, prepared_closingTag stable_paragraph] at hline
  rw [write_paragraph, write_paragraph, List.append_assoc, List.append_assoc,
    prepared_openingTag stable_paragraph (by simp), List.append_assoc, List.append_assoc]
  exact congrArg (openingTag paragraphName [] ++ ·) hline

/-- **Paragraphs may be prepared before they are written**, or afterwards. -/
theorem prepared_write {d : List Line} (h : ∀ l ∈ d, ∀ p ∈ l, p.Proper) (rest : Text) :
    prepared (write (d.map paragraph) ++ rest) =
      write ((d.map Line.prepared).map paragraph) ++ prepared rest := by
  induction d with
  | nil => rfl
  | cons l d ih =>
    obtain ⟨hl, hd⟩ := List.forall_mem_cons.1 h
    rw [write] at ih ⊢
    rw [write] at ih ⊢
    rw [List.map_cons, List.map_cons, List.map_cons, writeAll_cons, writeAll_cons, List.append_assoc,
      List.append_assoc, prepared_paragraph hl, ih hd]

end LiveText.Markup
