import LiveText.Proofs.Markup.Paragraph

/-!
# Reading what is written between brackets

Each lemma here says of one thing that is written (a value between quotes, the attributes of a tag, a
start tag, an end tag, a text) that it is read as the token it was written for, whatever follows it.
-/

set_option autoImplicit false

namespace LiveText.Markup

open Text

/-! ## Values -/

/-- The characters that are written as references, and the others. -/
theorem escapeChar_cases (c : Char) :
    c = '&' ∨ c = '<' ∨ c = '>' ∨ c ≠ '&' ∧ c ≠ '<' ∧ escapeChar c = [c] := by
  by_cases hand : c = '&'
  · exact .inl hand
  by_cases hlt : c = '<'
  · exact .inr (.inl hlt)
  by_cases hgt : c = '>'
  · exact .inr (.inr (.inl hgt))
  refine .inr (.inr (.inr ⟨hand, hlt, ?_⟩))
  rw [escapeChar]
  exacts [hand, hlt, hgt]

theorem reference?_quot (place : Place) (t : Text) :
    reference? place ('q' :: 'u' :: 'o' :: 't' :: ';' :: t) = some (['"'], t) := rfl

/-- A value with its double quotes written as references is read back. -/
theorem decode_quoted (place : Place) (v : Text) :
    decode place ((escape v).flatMap fun c => if c = '"' then "&quot;".toList else [c]) = v := by
  induction v with
  | nil => rw [escape, List.flatMap_nil, List.flatMap_nil, decode]
  | cons c cs ih =>
    have hstep : escape (c :: cs) = escapeChar c ++ escape cs := rfl
    rw [hstep, List.flatMap_append]
    rcases escapeChar_cases c with rfl | rfl | rfl | ⟨hand, -, hc⟩
    · exact (decode_reference place (reference?_amp place _)).trans (congrArg _ ih)
    · exact (decode_reference place (reference?_lt place _)).trans (congrArg _ ih)
    · exact (decode_reference place (reference?_gt place _)).trans (congrArg _ ih)
    rw [hc]
    by_cases hq : c = '"'
    · subst hq
      exact (decode_reference place (reference?_quot place _)).trans (congrArg _ ih)
    · rw [List.flatMap_singleton, if_neg hq, List.singleton_append, decode_cons_of_ne place hand, ih]

theorem quotedValue?_append {quote : Char} {v : Text} (h : quote ∉ v) (rest : Text) :
    quotedValue? quote (v ++ quote :: rest) = some (v, rest) := by
  have hv : ∀ c ∈ v, (c != quote) = true := fun c hc => by
    rw [bne_iff_ne]
    rintro rfl
    exact h hc
  rw [quotedValue?, List.dropWhile_append_of_pos hv, List.takeWhile_append_of_pos hv]
  simp

theorem value?_double (t : Text) : value? ('=' :: '"' :: t) = quotedValue? '"' t := rfl

theorem value?_single (t : Text) : value? ('=' :: '\'' :: t) = quotedValue? '\'' t := rfl

/-- A value that is written between quotes is read back. -/
theorem value?_quotedValue (v rest : Text) :
    ∃ w, value? ('=' :: (quotedValue v ++ rest)) = some (w, rest) ∧ decode .value w = v := by
  by_cases hdouble : '"' ∈ escape v
  · by_cases hsingle : '\'' ∈ escape v
    · refine ⟨_, ?_, decode_quoted .value v⟩
      rw [quotedValue, if_pos hdouble, if_pos hsingle, List.cons_append, List.append_assoc,
        value?_double]
      refine quotedValue?_append (fun hm => ?_) rest
      obtain ⟨c, -, hc⟩ := List.mem_flatMap.1 hm
      by_cases hq : c = '"'
      · rw [if_pos hq] at hc
        exact absurd hc (by decide)
      · rw [if_neg hq, List.mem_singleton] at hc
        exact hq hc.symm
    · refine ⟨escape v, ?_, decode_escape .value v⟩
      rw [quotedValue, if_pos hdouble, if_neg hsingle, List.cons_append, List.append_assoc,
        value?_single]
      exact quotedValue?_append hsingle rest
  · refine ⟨escape v, ?_, decode_escape .value v⟩
    rw [quotedValue, if_neg hdouble, List.cons_append, List.append_assoc, value?_double]
    exact quotedValue?_append hdouble rest

/-! ## Names -/

theorem isNamed_of_isLower {c : Char} (h : c.isLower = true) : isNamed c = true := by
  rw [isNamed, h, Bool.true_or]

theorem toLower_of_named {c : Char} (h : isNamed c = true) : c.toLower = c := by
  rw [isNamed, Bool.or_eq_true, beq_iff_eq] at h
  rcases h with h | rfl
  · exact toLower_of_isLower h
  · rfl

theorem not_endsAttributeName_of_isAlpha {c : Char} (h : c.isAlpha = true) :
    endsAttributeName c = false := by
  have hne : ∀ d : Char, d.isAlpha = false → c ≠ d := fun d => ne_of_class h
  simp [endsAttributeName, endsTagName, isGap, hne ' ' (by decide), hne '\t' (by decide),
    hne '\n' (by decide), hne '\x0c' (by decide), hne '\r' (by decide), hne '/' (by decide),
    hne '>' (by decide), hne '=' (by decide)]

theorem not_endsAttributeName_of_named {c : Char} (h : isNamed c = true) :
    endsAttributeName c = false := by
  rw [isNamed, Bool.or_eq_true, beq_iff_eq] at h
  rcases h with h | rfl
  · exact not_endsAttributeName_of_isAlpha (isAlpha_of_isLower h)
  · decide

theorem not_endsTagName_of_not_endsAttributeName {c : Char} (h : endsAttributeName c = false) :
    endsTagName c = false := by
  rw [endsAttributeName, Bool.or_eq_false_iff] at h
  exact h.1

/-- The name of a tag as it is read: it begins with a letter, and nothing in it ends it. -/
structure TagName (name : Text) : Prop where
  alpha : name.head?.any Char.isAlpha = true
  inside : name.all (!endsTagName ·) = true
  folded : foldName name = name

instance (name : Text) : Decidable (TagName name) :=
  decidable_of_iff (name.head?.any Char.isAlpha = true ∧ name.all (!endsTagName ·) = true ∧
    foldName name = name) ⟨fun h => ⟨h.1, h.2.1, h.2.2⟩, fun h => ⟨h.alpha, h.inside, h.folded⟩⟩

theorem TagName.exists_cons {name : Text} (h : TagName name) :
    ∃ c t, name = c :: t ∧ c.isAlpha = true := by
  cases name with
  | nil => exact absurd h.alpha (by decide)
  | cons c t => exact ⟨c, t, rfl, h.alpha⟩

/-- The name of an attribute as it is read: nothing in it ends it, but it may begin with an equals
sign. -/
structure AttributeName (name : Text) : Prop where
  head : name.head?.any (!endsTagName ·) = true
  inside : name.tail.all (!endsAttributeName ·) = true
  folded : foldName name = name

theorem Attribute.Named.attributeName {a : Attribute} (h : a.Named) : AttributeName a.name := by
  obtain ⟨name, v⟩ := a
  obtain ⟨hne, hname⟩ := h
  refine ⟨?_, ?_, ?_⟩
  · cases name with
    | nil => exact absurd rfl hne
    | cons c name =>
      have hc := not_endsAttributeName_of_named (hname c List.mem_cons_self)
      simp [not_endsTagName_of_not_endsAttributeName hc]
  · refine List.all_eq_true.2 fun c hc => ?_
    rw [not_endsAttributeName_of_named (hname c (List.mem_of_mem_tail hc)), Bool.not_false]
  · exact (List.map_congr_left fun c hc => toLower_of_named (hname c hc)).trans (List.map_id name)

/-! ## Attributes -/

/-- A written attribute is read back. -/
theorem attribute?_written {c : Char} {name : Text} (hname : name.all (!endsAttributeName ·) = true)
    (hfold : foldName (c :: name) = c :: name) (v rest : Text) :
    attribute? c (name ++ '=' :: (quotedValue v ++ rest)) = some (⟨c :: name, v⟩, rest) := by
  obtain ⟨w, hw, hv⟩ := value?_quotedValue v rest
  have hinside : ∀ d ∈ name, (!endsAttributeName d) = true := List.all_eq_true.1 hname
  have hend : (!endsAttributeName '=') = false := by decide
  rw [attribute?, List.dropWhile_append_of_pos hinside, List.takeWhile_append_of_pos hinside,
    List.dropWhile_cons_of_neg (by simp [hend]), List.takeWhile_cons_of_neg (by simp [hend]), hw,
    List.append_nil]
  simp [hv, hfold]

theorem tagEnd?_written {a : Attribute} (h : AttributeName a.name) (rest : Text) :
    tagEnd? (a.written ++ rest) =
      (tagEnd? rest).map fun e => { e with attributes := a :: e.attributes } := by
  obtain ⟨name, v⟩ := a
  obtain ⟨hhead, hinside, hfolded⟩ := h
  cases name with
  | nil => cases hhead
  | cons c name =>
    have hread : attribute? c (name ++ '=' :: (quotedValue v ++ rest)) =
        some (⟨c :: name, v⟩, rest) := attribute?_written hinside hfolded v rest
    have hc : endsTagName c = false := by simpa using hhead
    simp only [endsTagName, Bool.or_eq_false_iff, beq_eq_false_iff_ne] at hc
    obtain ⟨⟨hgap, hslash⟩, hbracket⟩ := hc
    rw [Attribute.written, List.cons_append, tagEnd?, if_pos (by decide)]
    · simp only [List.cons_append, List.append_assoc]
      rw [tagEnd?, if_neg (by simp [hgap, hslash])]
      · split
        · next hnone => rw [hread] at hnone; cases hnone
        · next b s hsome => rw [hread] at hsome; cases hsome; rfl
      · exact hbracket
      · exact fun r he => absurd he hslash
    · simp
    · simp

/-- The attributes of a tag are read back. -/
theorem tagEnd?_attributes {as : List Attribute} (h : ∀ a ∈ as, AttributeName a.name) (rest : Text) :
    tagEnd? (as.flatMap Attribute.written ++ rest) =
      (tagEnd? rest).map fun e => { e with attributes := as ++ e.attributes } := by
  induction as with
  | nil => simp
  | cons a as ih =>
    obtain ⟨ha, has⟩ := List.forall_mem_cons.1 h
    rw [List.flatMap_cons, List.append_assoc, tagEnd?_written ha, ih has, Option.map_map]
    rfl

theorem firstOfEach_eq_self {as : List Attribute} (h : (as.map Attribute.name).Nodup) :
    firstOfEach as = as := by
  induction as with
  | nil => rfl
  | cons a as ih =>
    rw [List.map_cons, List.nodup_cons] at h
    rw [firstOfEach, ih h.2, List.filter_eq_self.2]
    intro b hb
    rw [bne_iff_ne]
    intro he
    exact h.1 (he ▸ List.mem_map_of_mem hb)

theorem firstOfEach_ordered {as : List Attribute} (h : (as.map Attribute.name).Nodup) :
    firstOfEach (ordered as) = ordered as :=
  firstOfEach_eq_self (((ordered_perm as).map _).nodup_iff.2 h)

/-! ## Tags -/

theorem tokens_found {t rest : Text} {ts : List Token} (h : opening t = .found ts rest) :
    tokens ('<' :: t) = ts ++ tokens rest := by
  rw [tokens, if_pos rfl]
  split
  · next hn => rw [h] at hn; cases hn
  · next hn => rw [h] at hn; cases hn
  · next us r hf => rw [h] at hf; cases hf; rfl

theorem opening_of_isAlpha {c : Char} (h : c.isAlpha = true) (t : Text) :
    opening (c :: t) = .ofTag (startTag? (c :: t)) := by
  have hne : ∀ d : Char, d.isAlpha = false → c ≠ d := fun d => ne_of_class h
  rw [opening, if_pos h]
  · exact fun r he => absurd he (hne '!' (by decide))
  · exact hne '!' (by decide)
  · exact hne '?' (by decide)
  · exact fun r he => absurd he (hne '/' (by decide))
  · exact fun d r he => absurd he (hne '/' (by decide))

theorem opening_slash {c : Char} (h : c.isAlpha = true) (t : Text) :
    opening ('/' :: c :: t) = .ofTag (endTag? (c :: t)) := by
  rw [opening, if_pos h]
  rintro rfl
  exact absurd h (by decide)

section
variable {name : Text} (hname : TagName name)
include hname

theorem tokens_startTag {t rest : Text} {ts : List Token}
    (h : startTag? (name ++ t) = some (ts, rest)) :
    tokens ('<' :: (name ++ t)) = ts ++ tokens rest := by
  obtain ⟨c, u, rfl, hc⟩ := hname.exists_cons
  refine tokens_found ?_
  rw [List.cons_append, opening_of_isAlpha hc, ← List.cons_append, h]
  rfl

section
variable {t : Text} (ht : ∀ c ∈ t.head?, endsTagName c = true)
include ht

theorem dropWhile_tagName :
    (name ++ t).dropWhile (!endsTagName ·) = t ∧ (name ++ t).takeWhile (!endsTagName ·) = name := by
  have h : ∀ c ∈ name, (!endsTagName c) = true := List.all_eq_true.1 hname.inside
  rw [List.dropWhile_append_of_pos h, List.takeWhile_append_of_pos h]
  cases t with
  | nil => exact ⟨rfl, List.append_nil name⟩
  | cons c t =>
    have hc : endsTagName c = true := ht c rfl
    simp [hc]

variable {e : TagEnd} (he : tagEnd? t = some e)
include he

/-- A start tag is read up to its end, if its element holds markup or nothing. -/
theorem startTag?_append (hrule : e.closed = true ∨ ContentRule.of name = .markup) :
    startTag? (name ++ t) = some ([.startTag name (firstOfEach e.attributes) e.closed], e.rest) := by
  obtain ⟨hdrop, htake⟩ := dropWhile_tagName hname ht
  have hmarkup : (if e.closed then .markup else ContentRule.of name) = ContentRule.markup := by
    split
    · rfl
    · next hopen => exact hrule.resolve_left hopen
  rw [startTag?, hdrop, htake, he, hname.folded]
  simp only [Option.map_some, hmarkup]

/-- A start tag is read together with the text in its element, if that holds no markup. -/
theorem startTag?_append_raw (hclosed : e.closed = false) (hrule : ContentRule.of name ≠ .markup) :
    ∃ u, startTag? (name ++ t) = some
      (.startTag name (firstOfEach e.attributes) false :: textToken u, fromEndTag name e.rest) := by
  obtain ⟨hdrop, htake⟩ := dropWhile_tagName hname ht
  rw [startTag?, hdrop, htake, he, hname.folded, Option.map_some]
  simp only [hclosed, Bool.false_eq_true, if_false]
  cases h : ContentRule.of name with
  | markup => exact absurd h hrule
  | referenced => exact ⟨_, rfl⟩
  | verbatim => exact ⟨_, rfl⟩

end

/-- A written end tag is read back. -/
theorem tokens_closingTag (rest : Text) :
    tokens (closingTag name ++ rest) = .endTag name :: tokens rest := by
  obtain ⟨hdrop, htake⟩ := dropWhile_tagName hname (t := '>' :: rest) (by simp [endsTagName])
  have hread : endTag? (name ++ '>' :: rest) = some ([.endTag name], rest) := by
    rw [endTag?, hdrop, htake, tagEnd?, Option.map_some, hname.folded]
  obtain ⟨c, u, rfl, hc⟩ := hname.exists_cons
  have hopen := opening_slash hc (u ++ '>' :: rest)
  rw [List.cons_append] at hread
  rw [hread] at hopen
  calc tokens (closingTag (c :: u) ++ rest)
    _ = tokens ('<' :: '/' :: c :: (u ++ '>' :: rest)) := by simp [closingTag]
    _ = _ := tokens_found hopen

end

section
variable {as : List Attribute} (has : ∀ a ∈ as, AttributeName a.name) (rest : Text)
include has

theorem tagEnd?_openingTag :
    tagEnd? (writtenAttributes as ++ '>' :: rest) = some ⟨ordered as, false, rest⟩ := by
  have hend : tagEnd? ('>' :: rest) = some ⟨[], false, rest⟩ := by rw [tagEnd?]
  have hordered : ∀ a ∈ ordered as, AttributeName a.name := fun a ha => has a (mem_ordered.1 ha)
  calc tagEnd? (writtenAttributes as ++ '>' :: rest)
    _ = _ := tagEnd?_attributes hordered _
    _ = _ := by rw [hend, Option.map_some, List.append_nil]

theorem tagEnd?_emptyTag :
    tagEnd? (writtenAttributes as ++ '/' :: '>' :: rest) = some ⟨ordered as, true, rest⟩ := by
  have hend : tagEnd? ('/' :: '>' :: rest) = some ⟨[], true, rest⟩ := by rw [tagEnd?]
  have hordered : ∀ a ∈ ordered as, AttributeName a.name := fun a ha => has a (mem_ordered.1 ha)
  calc tagEnd? (writtenAttributes as ++ '/' :: '>' :: rest)
    _ = _ := tagEnd?_attributes hordered _
    _ = _ := by rw [hend, Option.map_some, List.append_nil]

end

theorem openingTag_append (name : Text) (as : List Attribute) (rest : Text) :
    openingTag name as ++ rest = '<' :: (name ++ (writtenAttributes as ++ '>' :: rest)) := by
  simp [openingTag]

theorem closingTag_append (name rest : Text) :
    closingTag name ++ rest = '<' :: '/' :: (name ++ '>' :: rest) := by
  simp [closingTag]

theorem emptyTag_append (name : Text) (as : List Attribute) (rest : Text) :
    emptyTag name as ++ rest = '<' :: (name ++ (writtenAttributes as ++ '/' :: '>' :: rest)) := by
  simp [emptyTag]

/-- The name of a tag ends where its attributes begin. -/
theorem endsTagName_head?_written (as : List Attribute) {t : Text}
    (ht : ∀ c ∈ t.head?, endsTagName c = true) :
    ∀ c ∈ (writtenAttributes as ++ t).head?, endsTagName c = true := by
  rw [writtenAttributes]
  generalize as.mergeSort (fun a b => notAfter a.name b.name) = bs
  cases bs with
  | nil => exact ht
  | cons b bs => simp [Attribute.written, endsTagName, isGap]

section
variable {name : Text} (hname : TagName name) {as : List Attribute}
  (has : ∀ a ∈ as, AttributeName a.name)
include hname has

/-- A written start tag is read back, with its attributes in the order in which they were
written. -/
theorem tokens_openingTag (hrule : ContentRule.of name = .markup) (rest : Text) :
    tokens (openingTag name as ++ rest) =
      .startTag name (firstOfEach (ordered as)) false :: tokens rest := by
  rw [openingTag_append]
  exact tokens_startTag hname (startTag?_append hname
    (endsTagName_head?_written as (by simp [endsTagName])) (tagEnd?_openingTag has rest)
    (.inr hrule))

/-- A written start tag is read back together with the text behind it, if its element holds no
markup. -/
theorem tokens_openingTag_raw (hrule : ContentRule.of name ≠ .markup) (rest : Text) :
    ∃ u, tokens (openingTag name as ++ rest) =
      .startTag name (firstOfEach (ordered as)) false :: (textToken u ++
        tokens (fromEndTag name rest)) := by
  obtain ⟨u, hu⟩ := startTag?_append_raw hname
    (endsTagName_head?_written as (by simp [endsTagName])) (tagEnd?_openingTag has rest) rfl hrule
  exact ⟨u, by rw [openingTag_append, tokens_startTag hname hu, List.cons_append]⟩

/-- The tag of an element without content is read back. -/
theorem tokens_emptyTag (rest : Text) :
    tokens (emptyTag name as ++ rest) =
      .startTag name (firstOfEach (ordered as)) true :: tokens rest := by
  rw [emptyTag_append]
  exact tokens_startTag hname (startTag?_append hname
    (endsTagName_head?_written as (by simp [endsTagName])) (tagEnd?_emptyTag has rest)
    (.inl rfl))

end

/-! ## Texts -/

theorem bracket_not_mem_escape (t : Text) : '<' ∉ escape t := by
  intro hm
  obtain ⟨c, -, hc⟩ := List.mem_flatMap.1 hm
  rcases escapeChar_cases c with rfl | rfl | rfl | ⟨-, hlt, he⟩
  · exact absurd hc (by decide)
  · exact absurd hc (by decide)
  · exact absurd hc (by decide)
  · rw [he, List.mem_singleton] at hc
    exact hlt hc.symm

theorem escape_ne_nil {t : Text} (h : t ≠ []) : escape t ≠ [] := by
  intro he
  have := decode_escape .content t
  rw [he] at this
  exact h (this ▸ by rw [decode])

/-- A written text is read back. -/
theorem tokens_text {t : Text} (h : t ≠ []) (rest : Text) :
    tokens (escape t ++ '<' :: rest) = .text t :: tokens ('<' :: rest) := by
  have hmem := bracket_not_mem_escape t
  have hdecode := decode_escape .content t
  cases he : escape t with
  | nil => exact absurd he (escape_ne_nil h)
  | cons c cs =>
    rw [he] at hmem hdecode
    have hcs : ∀ d ∈ cs, (d != '<') = true := fun d hd => by
      rw [bne_iff_ne]
      rintro rfl
      exact hmem (List.mem_cons_of_mem c hd)
    rw [List.cons_append, tokens, if_neg (fun hc => hmem (by simp [hc])),
      List.takeWhile_append_of_pos hcs, List.dropWhile_append_of_pos hcs]
    simp [hdecode]

end LiveText.Markup
