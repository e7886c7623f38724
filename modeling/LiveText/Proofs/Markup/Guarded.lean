import LiveText.Proofs.Markup.Written

/-!
# What a reader finds

The tokens of a text are such as can be written, whatever the text is: names end where they are to
end, a comment does not hold its end, and an element that holds no markup is closed before anything
else is opened (`guarded_tokens`). The sections follow the readers of `LiveText.Markup.Token`.
-/

set_option autoImplicit false

namespace LiveText.Markup

open Text

/-! ## What is left of a text -/

theorem suffix_quotedValue? {quote : Char} {t v rest : Text}
    (h : quotedValue? quote t = some (v, rest)) : rest <:+ t := by
  unfold quotedValue? at h
  split at h
  · cases h
  · next c r hr =>
    cases h
    exact (List.suffix_cons c _).trans (hr ▸ List.dropWhile_suffix _)

theorem suffix_value? {t v rest : Text} (h : value? t = some (v, rest)) : rest <:+ t := by
  have hgap : t.dropWhile isGap <:+ t := List.dropWhile_suffix _
  unfold value? at h
  split at h
  · next r hr =>
    have hr' : r.dropWhile isGap <:+ t :=
      (List.dropWhile_suffix _).trans ((List.suffix_cons '=' r).trans (hr ▸ hgap))
    split at h
    · next s hs => exact (suffix_quotedValue? h).trans ((List.suffix_cons _ s).trans (hs ▸ hr'))
    · next s hs => exact (suffix_quotedValue? h).trans ((List.suffix_cons _ s).trans (hs ▸ hr'))
    · cases h
      exact (List.dropWhile_suffix _).trans hr'
  · cases h
    exact hgap

theorem suffix_attribute? {c : Char} {t rest : Text} {a : Attribute}
    (h : attribute? c t = some (a, rest)) : rest <:+ t := by
  simp only [attribute?, Option.map_eq_some_iff, Prod.mk.injEq] at h
  obtain ⟨⟨v, r⟩, hv, -, rfl⟩ := h
  exact (suffix_value? hv).trans (List.dropWhile_suffix _)

theorem suffix_tagEnd? {t : Text} {e : TagEnd} (h : tagEnd? t = some e) : e.rest <:+ t := by
  fun_induction tagEnd? t generalizing e with
  | case1 => cases h
  | case2 r => cases h; exact List.suffix_cons _ _
  | case3 r => cases h; exact (List.suffix_cons _ _).trans (List.suffix_cons _ _)
  | case4 c r _ _ _ ih => exact (ih h).trans (List.suffix_cons c r)
  | case5 => cases h
  | case6 c r _ _ _ a s hs ih =>
    obtain ⟨e', he', rfl⟩ := Option.map_eq_some_iff.1 h
    exact (ih he').trans ((suffix_attribute? hs).trans (List.suffix_cons c r))

theorem suffix_throughBracket (t : Text) : (throughBracket t).2 <:+ t :=
  (List.drop_suffix _ _).trans (List.dropWhile_suffix _)

theorem suffix_comment (t : Text) : (comment t).2 <:+ t := by
  fun_induction comment t with
  | case1 => exact List.suffix_rfl
  | case2 r => exact ⟨['-', '-', '>'], rfl⟩
  | case3 r => exact ⟨['-', '-', '!', '>'], rfl⟩
  | case4 c r _ _ ih => exact ih.trans (List.suffix_cons c r)

theorem suffix_commentOrEmpty (t : Text) : (commentOrEmpty t).2 <:+ t := by
  unfold commentOrEmpty
  split
  · exact List.suffix_cons _ _
  · exact ⟨['-', '>'], rfl⟩
  · exact suffix_comment _

theorem suffix_fromEndTag (name t : Text) : fromEndTag name t <:+ t := by
  induction t with
  | nil => exact List.suffix_rfl
  | cons c t ih =>
    rw [fromEndTag]
    split
    · exact List.suffix_rfl
    · exact ih.trans (List.suffix_cons c t)

/-! ## Names -/

theorem endsAttributeName_toLower (c : Char) : endsAttributeName c.toLower = endsAttributeName c := by
  rcases toLower_cases c with h | ⟨hupper, hlower⟩
  · rw [h]
  · rw [not_endsAttributeName_of_isAlpha (isAlpha_of_isLower hlower),
      not_endsAttributeName_of_isAlpha (isAlpha_iff.2 (.inl hupper))]

theorem endsTagName_toLower (c : Char) : endsTagName c.toLower = endsTagName c := by
  rcases toLower_cases c with h | ⟨hupper, hlower⟩
  · rw [h]
  · have hname : ∀ d : Char, d.isAlpha = true → endsTagName d = false := fun d hd =>
      not_endsTagName_of_not_endsAttributeName (not_endsAttributeName_of_isAlpha hd)
    rw [hname _ (isAlpha_of_isLower hlower), hname _ (isAlpha_iff.2 (.inl hupper))]

theorem isAlpha_toLower {c : Char} (h : c.isAlpha = true) : c.toLower.isAlpha = true := by
  rcases toLower_cases c with hc | ⟨-, hlower⟩
  · rw [hc, h]
  · exact isAlpha_of_isLower hlower

theorem isStable_toLower {c : Char} (h : isStable c = true) : isStable c.toLower = true := by
  rcases toLower_cases c with hc | ⟨-, hlower⟩
  · rw [hc, h]
  · have hstable := stable_of_named (t := [c.toLower])
      (List.forall_mem_singleton.2 (isNamed_of_isLower hlower))
    rwa [List.all_cons, List.all_nil, Bool.and_true] at hstable

theorem foldName_foldName (t : Text) : foldName (foldName t) = foldName t := by
  rw [foldName, foldName, List.map_map]
  exact List.map_congr_left fun c _ => toLower_toLower c

theorem stable_foldName {t : Text} (h : t.all isStable = true) :
    (foldName t).all isStable = true := by
  rw [foldName, List.all_map]
  exact List.all_eq_true.2 fun c hc => isStable_toLower (List.all_eq_true.1 h c hc)

/-- The name of a tag is read up to what ends it. -/
theorem tagName_of_read {c : Char} (h : c.isAlpha = true) (t : Text) :
    TagName (foldName ((c :: t).takeWhile (!endsTagName ·))) := by
  have hc : endsTagName c = false :=
    not_endsTagName_of_not_endsAttributeName (not_endsAttributeName_of_isAlpha h)
  refine ⟨?_, ?_, foldName_foldName _⟩
  · rw [List.takeWhile_cons_of_pos (by simp [hc]), foldName, List.map_cons]
    exact isAlpha_toLower h
  · rw [foldName, List.all_map]
    refine List.all_eq_true.2 fun d hd => ?_
    rw [Function.comp_apply, endsTagName_toLower]
    exact List.all_eq_true.1 List.all_takeWhile d hd

theorem attributeName_of_read {c : Char} (h : endsTagName c = false) (t : Text) :
    AttributeName (foldName (c :: t.takeWhile (!endsAttributeName ·))) := by
  refine ⟨?_, ?_, foldName_foldName _⟩
  · rw [foldName, List.map_cons, List.head?_cons, Option.any_some, endsTagName_toLower, h]
    rfl
  · rw [foldName, List.map_cons, List.tail_cons, List.all_map]
    refine List.all_eq_true.2 fun d hd => ?_
    rw [Function.comp_apply, endsAttributeName_toLower]
    exact List.all_eq_true.1 List.all_takeWhile d hd

theorem readable_of_attribute? {c : Char} {t rest : Text} {a : Attribute} (hc : endsTagName c = false)
    (hstable : (c :: t).all isStable = true) (h : attribute? c t = some (a, rest)) : a.Readable := by
  rw [List.all_cons, Bool.and_eq_true] at hstable
  simp only [attribute?, Option.map_eq_some_iff, Prod.mk.injEq] at h
  obtain ⟨⟨v, r⟩, -, rfl, -⟩ := h
  refine ⟨attributeName_of_read hc t, stable_foldName ?_⟩
  rw [List.all_cons, hstable.1, all_of_subset (List.takeWhile_sublist _).subset hstable.2]
  rfl

theorem readable_of_tagEnd? {t : Text} {e : TagEnd} (hstable : t.all isStable = true)
    (h : tagEnd? t = some e) : ∀ a ∈ e.attributes, a.Readable := by
  fun_induction tagEnd? t generalizing e with
  | case1 => cases h
  | case2 r => cases h; exact fun a ha => absurd ha List.not_mem_nil
  | case3 r => cases h; exact fun a ha => absurd ha List.not_mem_nil
  | case4 c r _ _ _ ih =>
    rw [List.all_cons, Bool.and_eq_true] at hstable
    exact ih hstable.2 h
  | case5 => cases h
  | case6 c r hbracket _ hgap a s hs ih =>
    obtain ⟨e', he', rfl⟩ := Option.map_eq_some_iff.1 h
    have hc : endsTagName c = false := by
      rw [Bool.or_eq_true, beq_iff_eq, not_or, Bool.not_eq_true] at hgap
      rw [endsTagName, Bool.or_eq_false_iff, Bool.or_eq_false_iff, beq_eq_false_iff_ne,
        beq_eq_false_iff_ne]
      exact ⟨hgap, hbracket⟩
    have hrest : s.all isStable = true := by
      rw [List.all_cons, Bool.and_eq_true] at hstable
      exact all_of_subset (suffix_attribute? hs).subset hstable.2
    exact List.forall_mem_cons.2 ⟨readable_of_attribute? hc hstable hs, ih hrest he'⟩

theorem mem_of_mem_firstOfEach {as : List Attribute} {a : Attribute} (h : a ∈ firstOfEach as) :
    a ∈ as := by
  induction as with
  | nil => exact h
  | cons b as ih =>
    rw [firstOfEach] at h
    rcases List.mem_cons.1 h with rfl | h
    · exact List.mem_cons_self
    · exact List.mem_cons_of_mem b (ih (List.mem_filter.1 h).1)

/-! ## Comments and declarations -/

/-- What the end of a comment is made of stands in it. -/
theorem ClosesComment.mem {t : Text} (h : ClosesComment t) : '>' ∈ t := by
  rcases h with h | h
  · exact h.subset (by decide)
  · exact h.subset (by decide)

theorem commentText_of_no_bracket {t : Text} (h : '>' ∉ t) : CommentText t := by
  refine ⟨fun u hu hclose => h (hu.subset hclose.mem), ?_, ?_⟩
  · exact fun hstart => h (hstart.subset (by decide))
  · exact fun hstart => h (hstart.subset (by decide))

theorem bracket_notMem_throughBracket (t : Text) : '>' ∉ (throughBracket t).1 := fun h => by
  have := List.all_eq_true.1 (List.all_takeWhile (p := (· != '>')) (l := t)) _ h
  exact absurd this (by decide)

/-- What was read up to the end of a comment is the start of the text. -/
theorem comment_isStart (t : Text) : (comment t).1 <+: t := by
  fun_induction comment t with
  | case1 => exact List.prefix_rfl
  | case2 r => exact List.nil_prefix
  | case3 r => exact List.nil_prefix
  | case4 c r _ _ ih => exact List.cons_prefix_cons.2 ⟨rfl, ih⟩

theorem not_closesComment_comment (t : Text) : ∀ u, u <:+ (comment t).1 → ¬ClosesComment u := by
  have hnil : ∀ u : Text, u <:+ [] → ¬ClosesComment u := by
    intro u hu hclose
    rw [List.suffix_nil.1 hu] at hclose
    exact absurd hclose.mem List.not_mem_nil
  fun_induction comment t with
  | case1 => exact hnil
  | case2 r => exact hnil
  | case3 r => exact hnil
  | case4 c r hdash hbang ih =>
    intro u hu hclose
    rcases List.suffix_cons_iff.1 hu with rfl | hu
    · have hstart : c :: (comment r).1 <+: c :: r := List.cons_prefix_cons.2 ⟨rfl, comment_isStart r⟩
      rcases hclose with hclose | hclose
      · obtain ⟨s, hs⟩ := hclose.trans hstart
        obtain ⟨rfl, rfl⟩ := List.cons.inj hs
        exact hdash s rfl rfl
      · obtain ⟨s, hs⟩ := hclose.trans hstart
        obtain ⟨rfl, rfl⟩ := List.cons.inj hs
        exact hbang s rfl rfl
    · exact ih u hu hclose

theorem commentText_commentOrEmpty (t : Text) : CommentText (commentOrEmpty t).1 := by
  unfold commentOrEmpty
  split
  · exact commentText_of_no_bracket List.not_mem_nil
  · exact commentText_of_no_bracket List.not_mem_nil
  · next hbracket hdash =>
    refine ⟨not_closesComment_comment t, fun hstart => ?_, fun hstart => ?_⟩
    · obtain ⟨r, hr⟩ := hstart.trans (comment_isStart t)
      exact hbracket r hr.symm
    · obtain ⟨r, hr⟩ := hstart.trans (comment_isStart t)
      exact hdash r hr.symm

section
variable {p : Char → Bool}

theorem all_commentOrEmpty {t : Text} (h : t.all p = true) : (commentOrEmpty t).1.all p = true := by
  unfold commentOrEmpty
  split
  · rfl
  · rfl
  · exact all_of_subset (comment_isStart t).subset h

theorem all_quotedId {t : Text} (h : t.all p = true) :
    (quotedId t).1.all (·.all p) = true ∧ (quotedId t).2.all p = true := by
  have hgap : (t.dropWhile isGap).all p = true := all_of_subset (List.dropWhile_suffix _).subset h
  unfold quotedId
  split
  · next r hr =>
    rw [hr, List.all_cons, Bool.and_eq_true] at hgap
    exact ⟨all_of_subset (List.takeWhile_sublist _).subset hgap.2,
      all_of_subset ((List.drop_suffix _ _).trans (List.dropWhile_suffix _)).subset hgap.2⟩
  · next r hr =>
    rw [hr, List.all_cons, Bool.and_eq_true] at hgap
    exact ⟨all_of_subset (List.takeWhile_sublist _).subset hgap.2,
      all_of_subset ((List.drop_suffix _ _).trans (List.dropWhile_suffix _)).subset hgap.2⟩
  · exact ⟨rfl, hgap⟩

theorem all_idAfter {word : String} {id : Option Text} (hword : word.toList.all p = true)
    (hquote : p '"' = true) (hid : id.all (·.all p) = true) : (idAfter word id).all p = true := by
  cases id with
  | none => rfl
  | some id =>
    have hall : id.all p = true := hid
    rw [idAfter, List.all_append, List.all_cons, List.all_append, hword, hquote, hall, List.all_cons,
      hquote]
    rfl

/-- A declaration is made of what was read and of words of its own. -/
theorem all_doctypeContent {t : Text} (h : t.all p = true) (hquote : p '"' = true)
    (hpublic : " PUBLIC ".toList.all p = true) (hsystem : " SYSTEM ".toList.all p = true) :
    (doctypeContent t).all p = true := by
  have hspace : " ".toList.all p = true :=
    all_of_subset (List.cons_subset.2 ⟨by decide, List.nil_subset _⟩) hpublic
  have hgap : (t.dropWhile isGap).all p = true := all_of_subset (List.dropWhile_suffix _).subset h
  have hname : ((t.dropWhile isGap).takeWhile (!isGap ·)).all p = true :=
    all_of_subset (List.takeWhile_sublist _).subset hgap
  have hrest : ((((t.dropWhile isGap).dropWhile (!isGap ·)).dropWhile isGap).drop 6).all p = true :=
    all_of_subset ((List.drop_suffix _ _).trans ((List.dropWhile_suffix _).trans
      (List.dropWhile_suffix _))).subset hgap
  obtain ⟨hid, hbehind⟩ := all_quotedId hrest
  simp only [doctypeContent]
  split
  · split
    · exact hname
    · rw [List.all_append, List.all_append, hname, all_idAfter hpublic hquote hid,
        all_idAfter hspace hquote (all_quotedId hbehind).1]
      rfl
  · split
    · rw [List.all_append, hname, all_idAfter hsystem hquote hid]
      rfl
    · exact hname

end

/-- A declaration ends at its first bracket. -/
theorem bracket_notMem_doctypeContent (n : Nat) (t : Text) :
    '>' ∉ doctypeContent ((throughBracket t).1.drop n) := by
  have hall : ((throughBracket t).1.drop n).all (· != '>') = true :=
    all_of_subset (List.drop_suffix _ _).subset List.all_takeWhile
  intro h
  have := List.all_eq_true.1 (all_doctypeContent hall (by decide) (by decide) (by decide)) _ h
  exact absurd this (by decide)

/-! ## Tokens -/

/-- A token as a reader finds it, other than the start tag of an element that holds no markup. -/
def Token.Sound : Token → Prop
  | .text _ => True
  | .startTag name as closed => ProperTag name as ∧ (closed = true ∨ ContentRule.of name = .markup)
  | .endTag _ => True
  | .comment t => CommentText t ∧ t.all isStable = true
  | .doctype t => '>' ∉ t ∧ t.all isStable = true

/-- An element that holds no markup, as a reader finds it: no end tag is in its text, if that is
written as it is. -/
structure RawElement (name : Text) (as : List Attribute) (u : Text) : Prop where
  tag : ProperTag name as
  rule : ContentRule.of name ≠ .markup
  unclosed : isVerbatim name = true → Unclosed name u ∧ u.all isStable = true

/-- Tokens as a reader finds them: an element that holds no markup is closed before anything else is
opened, unless the text ends in it. -/
inductive Guarded : List Token → Prop
  | nil : Guarded []
  | cons {t : Token} {ts : List Token} (ht : t.Sound) (h : Guarded ts) : Guarded (t :: ts)
  | raw {name : Text} {as : List Attribute} {u : Text} {ts : List Token} (hraw : RawElement name as u)
      (h : Guarded ts) : Guarded (.startTag name as false :: (textToken u ++ .endTag name :: ts))
  | unfinished {name : Text} {as : List Attribute} {u : Text} (hraw : RawElement name as u) :
      Guarded (.startTag name as false :: textToken u)

/-- After the text of an element that holds no markup its end tag follows, or nothing does. -/
theorem Guarded.of_raw {name : Text} {as : List Attribute} {u : Text} {ts : List Token}
    (hraw : RawElement name as u) (hnext : ts = [] ∨ ∃ us, ts = .endTag name :: us)
    (h : Guarded ts) : Guarded (.startTag name as false :: (textToken u ++ ts)) := by
  rcases hnext with rfl | ⟨us, rfl⟩
  · rw [List.append_nil]
    exact .unfinished hraw
  · cases h with
    | cons ht h => exact .raw hraw h

theorem tokens_unfinished {t : Text} (h : opening t = .unfinished) : tokens ('<' :: t) = [] := by
  rw [tokens, if_pos rfl]
  split
  · next hn => rw [h] at hn; cases hn
  · rfl
  · next us r hf => rw [h] at hf; cases hf

theorem fromEndTag_cases (name t : Text) :
    fromEndTag name t = [] ∨ atEndTag name (fromEndTag name t) = true := by
  induction t with
  | nil => exact .inl rfl
  | cons c t ih =>
    rw [fromEndTag]
    split
    · next h => exact .inr h
    · exact ih

/-- What is read next after the text in an element that holds no markup is its end tag. -/
theorem tokens_fromEndTag {name : Text} (hname : TagName name) (t : Text) :
    tokens (fromEndTag name t) = [] ∨ ∃ us, tokens (fromEndTag name t) = .endTag name :: us := by
  rcases fromEndTag_cases name t with hnil | hat
  · rw [hnil]
    exact .inl (by rw [tokens])
  generalize fromEndTag name t = v at hat
  obtain ⟨w, d, r, rfl, hfold, hend⟩ := atEndTag_iff.1 hat
  obtain ⟨a, n, rfl, ha⟩ := hname.exists_cons
  have hshort : w.length = n.length + 3 := by
    rw [← length_foldName w, hfold]
    rfl
  rcases w with _ | ⟨x, _ | ⟨y, _ | ⟨b, w⟩⟩⟩
  · simp at hshort
  · simp at hshort
  · simp at hshort
  rw [foldName, List.map_cons, List.map_cons, List.cons_eq_cons, List.cons_eq_cons] at hfold
  obtain ⟨hx, hy, hfold⟩ := hfold
  obtain rfl := eq_of_toLower_eq hx (by decide)
  obtain rfl := eq_of_toLower_eq hy (by decide)
  have hb : b.isAlpha = true := by
    rcases toLower_cases b with hb | ⟨hupper, -⟩
    · rw [← hb, (List.cons.inj hfold).1, ha]
    · exact isAlpha_iff.2 (.inl hupper)
  have hinside : ∀ c ∈ b :: w, (!endsTagName c) = true := by
    intro c hc
    have hmem : c.toLower ∈ a :: n := hfold ▸ List.mem_map_of_mem hc
    have := List.all_eq_true.1 hname.inside _ hmem
    rwa [endsTagName_toLower] at this
  have htake : (b :: w ++ d :: r).takeWhile (!endsTagName ·) = b :: w := by
    rw [List.takeWhile_append_of_pos hinside, List.takeWhile_cons_of_neg (by simp [hend]),
      List.append_nil]
  have hopen := opening_slash hb (w ++ d :: r)
  rw [endTag?, ← List.cons_append, htake, foldName, hfold] at hopen
  cases htag : tagEnd? ((b :: w ++ d :: r).dropWhile (!endsTagName ·)) with
  | none =>
    rw [htag] at hopen
    exact .inl (tokens_unfinished hopen)
  | some e =>
    rw [htag] at hopen
    exact .inr ⟨tokens e.rest, tokens_found hopen⟩

/-- A start tag is followed by what its element may hold. -/
theorem guarded_startTag? {c : Char} {t rest : Text} {ts : List Token} (hc : c.isAlpha = true)
    (hstable : (c :: t).all isStable = true) (h : startTag? (c :: t) = some (ts, rest)) :
    rest.all isStable = true ∧ (Guarded (tokens rest) → Guarded (ts ++ tokens rest)) := by
  obtain ⟨e, he, h⟩ := Option.map_eq_some_iff.1 h
  have hname : TagName (foldName ((c :: t).takeWhile (!endsTagName ·))) := tagName_of_read hc t
  have hdrop : ((c :: t).dropWhile (!endsTagName ·)).all isStable = true :=
    all_of_subset (List.dropWhile_suffix _).subset hstable
  have hrest : e.rest.all isStable = true := all_of_subset (suffix_tagEnd? he).subset hdrop
  have htag : ProperTag (foldName ((c :: t).takeWhile (!endsTagName ·)))
      (firstOfEach e.attributes) :=
    ⟨hname, stable_foldName (all_of_subset (List.takeWhile_sublist _).subset hstable),
      fun a ha => readable_of_tagEnd? hdrop he a (mem_of_mem_firstOfEach ha)⟩
  generalize foldName ((c :: t).takeWhile (!endsTagName ·)) = name at h hname htag
  have hfrom := all_of_subset (suffix_fromEndTag name e.rest).subset hrest
  have hopened : ∀ {rule}, (if e.closed then .markup else ContentRule.of name) = rule →
      rule ≠ .markup → e.closed = false ∧ ContentRule.of name = rule := by
    intro rule hrule hne
    cases hclosed : e.closed with
    | true => rw [hclosed, if_pos rfl] at hrule; exact absurd hrule.symm hne
    | false => rw [hclosed, if_neg Bool.false_ne_true] at hrule; exact ⟨rfl, hrule⟩
  dsimp only at h
  split at h
  · next hrule =>
    cases h
    refine ⟨hrest, Guarded.cons ⟨htag, ?_⟩⟩
    cases hclosed : e.closed with
    | true => exact .inl rfl
    | false => rw [hclosed, if_neg Bool.false_ne_true] at hrule; exact .inr hrule
  · next hrule =>
    obtain ⟨hclosed, hrule⟩ := hopened hrule (by decide)
    cases h
    rw [hclosed]
    refine ⟨hfrom, .of_raw ⟨htag, by rw [hrule]; decide, fun hverbatim => ?_⟩
      (tokens_fromEndTag hname _)⟩
    rw [rule_of_isVerbatim hverbatim] at hrule
    cases hrule
  · next hrule =>
    obtain ⟨hclosed, hrule⟩ := hopened hrule (by decide)
    cases h
    rw [hclosed]
    refine ⟨hfrom, .of_raw ⟨htag, by rw [hrule]; decide, fun hverbatim => ?_⟩
      (tokens_fromEndTag hname _)⟩
    obtain ⟨v, hv⟩ := beforeEndTag_append name e.rest
    rw [← hv, List.all_append, Bool.and_eq_true] at hrest
    exact ⟨unclosed_beforeEndTag hname (bracket_notMem_of_isVerbatim hverbatim) _, hrest.1⟩

/-- What an opening bracket opens is found as it can be written. -/
theorem guarded_opening {t rest : Text} {ts : List Token} (hstable : t.all isStable = true)
    (h : opening t = .found ts rest) :
    rest.all isStable = true ∧ (Guarded (tokens rest) → Guarded (ts ++ tokens rest)) := by
  have through : ∀ {u : Text}, u.all isStable = true →
      (throughBracket u).1.all isStable = true ∧ (throughBracket u).2.all isStable = true :=
    fun hu => ⟨all_of_subset (List.takeWhile_sublist _).subset hu,
      all_of_subset (suffix_throughBracket _).subset hu⟩
  unfold opening at h
  split at h
  · next r =>
    simp only [List.all_cons, Bool.and_eq_true] at hstable
    cases h
    exact ⟨all_of_subset (suffix_commentOrEmpty r).subset hstable.2.2.2,
      .cons ⟨commentText_commentOrEmpty r, all_commentOrEmpty hstable.2.2.2⟩⟩
  · next r _ =>
    rw [List.all_cons, Bool.and_eq_true] at hstable
    obtain ⟨hcontent, hrest⟩ := through hstable.2
    dsimp only at h
    split at h
    · cases h
      exact ⟨hrest, .cons ⟨bracket_notMem_doctypeContent 7 r,
        all_doctypeContent (all_of_subset (List.drop_suffix _ _).subset hcontent) (by decide)
          (by decide) (by decide)⟩⟩
    · cases h
      exact ⟨hrest, .cons ⟨commentText_of_no_bracket (bracket_notMem_throughBracket r), hcontent⟩⟩
  · next r =>
    rw [List.all_cons, Bool.and_eq_true] at hstable
    obtain ⟨hcontent, hrest⟩ := through hstable.2
    have hbracket : '>' ∉ '?' :: (throughBracket r).1 := by
      rw [List.mem_cons, not_or]
      exact ⟨by decide, bracket_notMem_throughBracket r⟩
    have hmark : ('?' :: (throughBracket r).1).all isStable = true := by
      rw [List.all_cons, hcontent]
      decide
    cases h
    exact ⟨hrest, .cons ⟨commentText_of_no_bracket hbracket, hmark⟩⟩
  · next r =>
    rw [List.all_cons, List.all_cons, Bool.and_eq_true, Bool.and_eq_true] at hstable
    cases h
    exact ⟨hstable.2.2, id⟩
  · next c r _ =>
    rw [List.all_cons, Bool.and_eq_true] at hstable
    split at h
    · obtain ⟨e, he, h⟩ := Option.map_eq_some_iff.1 (ofTag_eq_found h)
      cases h
      refine ⟨all_of_subset (suffix_tagEnd? he).subset ?_, .cons trivial⟩
      exact all_of_subset (List.dropWhile_suffix _).subset hstable.2
    · cases h
      obtain ⟨hcontent, hrest⟩ := through hstable.2
      exact ⟨hrest, .cons ⟨commentText_of_no_bracket (bracket_notMem_throughBracket _), hcontent⟩⟩
  · next c r _ _ _ _ _ =>
    split at h
    · next hc => exact guarded_startTag? hc hstable (ofTag_eq_found h)
    · cases h
  · cases h

/-- **The tokens of a text** are such as can be written. -/
theorem guarded_tokens {t : Text} (hstable : t.all isStable = true) : Guarded (tokens t) := by
  fun_induction tokens t with
  | case1 => exact .nil
  | case2 r _ ih =>
    rw [List.all_cons, Bool.and_eq_true] at hstable
    exact .cons trivial (ih hstable.2)
  | case3 => exact .nil
  | case4 r ts rest hopen ih =>
    rw [List.all_cons, Bool.and_eq_true] at hstable
    obtain ⟨hrest, hguarded⟩ := guarded_opening hstable.2 hopen
    exact hguarded (ih hrest)
  | case5 c r _ ih =>
    rw [List.all_cons, Bool.and_eq_true] at hstable
    exact .cons trivial (ih (all_of_subset (List.dropWhile_suffix _).subset hstable.2))

end LiveText.Markup
