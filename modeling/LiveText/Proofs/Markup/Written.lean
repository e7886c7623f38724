import LiveText.Proofs.Markup.Bare
import LiveText.Proofs.Markup.Preparing

/-!
# The marks of what is written

When nodes are written and read again, texts may run together and line ends may change, but the marks
between the texts are those that the nodes were written for, whatever the texts are
(`Writable.marksIn_write`). A node is `Writable` if its names and comments are as a reader finds them;
nothing is asked of texts and of values, since the characters of marks are written as references in
them. Only in scripts and style sheets texts are written as they are, and no end tag may be in them
(`Unclosed`).
-/

set_option autoImplicit false

namespace LiveText.Markup

open Text

/-! ## Texts -/

/-- The marks that are found in a text when it is read. -/
def marksIn (t : Text) : List Token := marks (tokens (prepared t))

/-- Up to the next bracket there are no marks. -/
theorem marks_tokens_dropWhile (t : Text) :
    marks (tokens (t.dropWhile (· != '<'))) = marks (tokens t) := by
  cases t with
  | nil => rfl
  | cons c t =>
    by_cases hc : c = '<'
    · rw [List.dropWhile_cons_of_neg (by simp [hc])]
    · rw [List.dropWhile_cons_of_pos (by simp [hc]), tokens, if_neg hc]
      rfl

/-- Preparing neither makes nor takes away brackets. -/
theorem dropWhile_prepared (t : Text) :
    (prepared t).dropWhile (· != '<') = prepared (t.dropWhile (· != '<')) := by
  fun_induction prepared t with
  | case1 => rfl
  | case2 t ih => exact ih
  | case3 c t hline ih =>
    change (preparedChar c :: prepared t).dropWhile (· != '<') = _
    by_cases hc : c = '<'
    · subst hc
      rfl
    · have hprepared : preparedChar c ≠ '<' := by
        rw [preparedChar]
        split
        · decide
        · split
          · decide
          · exact hc
      rw [List.dropWhile_cons_of_pos (by simpa using hprepared),
        List.dropWhile_cons_of_pos (by simpa using hc), ih]

/-- A text without brackets has no influence on the marks that are found behind it. -/
theorem marksIn_append {t : Text} (h : '<' ∉ t) (rest : Text) :
    marksIn (t ++ rest) = marksIn rest := by
  have hno : ∀ c ∈ t, (c != '<') = true := fun c hc => by
    rw [bne_iff_ne]
    rintro rfl
    exact h hc
  calc marksIn (t ++ rest)
    _ = marks (tokens (prepared ((t ++ rest).dropWhile (· != '<')))) := by
      rw [← dropWhile_prepared, marks_tokens_dropWhile, marksIn]
    _ = marks (tokens (prepared (rest.dropWhile (· != '<')))) := by
      rw [List.dropWhile_append_of_pos hno]
    _ = marksIn rest := by rw [← dropWhile_prepared, marks_tokens_dropWhile, marksIn]

/-! ## Tags -/

/-- An attribute with a name as it is read. -/
def Attribute.Readable (a : Attribute) : Prop := AttributeName a.name ∧ a.name.all isStable = true

/-- A tag with names as they are read. -/
structure ProperTag (name : Text) (as : List Attribute) : Prop where
  tagName : TagName name
  stable : name.all isStable = true
  attributes : ∀ a ∈ as, a.Readable

/-- The attributes that are read where attributes were written. -/
def readAttributes (as : List Attribute) : List Attribute :=
  firstOfEach (ordered (as.map Attribute.prepared))

/-! ## End tags in raw texts -/

theorem length_foldName (t : Text) : (foldName t).length = t.length := List.length_map _

/-- What begins with an end tag: its name in either case, and a character that ends the name. -/
theorem atEndTag_iff {name t : Text} :
    atEndTag name t = true ↔
      ∃ s c r, t = s ++ c :: r ∧ foldName s = '<' :: '/' :: name ∧ endsTagName c = true := by
  rw [atEndTag, beginsWith, Bool.and_eq_true, beq_iff_eq]
  constructor
  · rintro ⟨hfold, hend⟩
    cases hdrop : t.drop (name.length + 2) with
    | nil =>
      rw [hdrop] at hend
      cases hend
    | cons c r =>
      rw [hdrop] at hend
      exact ⟨_, c, r, hdrop ▸ (List.take_append_drop _ t).symm, hfold, hend⟩
  · rintro ⟨s, c, r, rfl, hfold, hend⟩
    have hlength : name.length + 2 = s.length := by
      rw [← length_foldName s, hfold]
      rfl
    rw [hlength, List.drop_left]
    refine ⟨?_, hend⟩
    rw [List.length_cons, List.length_cons, hlength, List.take_left, hfold]

theorem atEndTag_append {name t : Text} (h : atEndTag name t = true) (rest : Text) :
    atEndTag name (t ++ rest) = true := by
  obtain ⟨s, c, r, rfl, hfold, hend⟩ := atEndTag_iff.1 h
  exact atEndTag_iff.2 ⟨s, c, r ++ rest, by simp, hfold, hend⟩

/-- An end tag does not begin in front of the next bracket and end behind it. -/
theorem atEndTag_of_append {name t rest : Text} (hname : '<' ∉ name) (ht : t ≠ [])
    (h : atEndTag name (t ++ '<' :: rest) = true) : atEndTag name t = true := by
  obtain ⟨s, c, r, heq, hfold, hend⟩ := atEndTag_iff.1 h
  have hc : c ≠ '<' := by
    rintro rfl
    exact absurd hend (by decide)
  rcases List.append_eq_append_iff.1 heq with ⟨a, rfl, ha⟩ | ⟨a, rfl, ha⟩
  · cases a with
    | nil => exact absurd (List.cons.inj ha).1.symm hc
    | cons d a =>
      obtain rfl := (List.cons.inj ha).1
      cases t with
      | nil => exact absurd rfl ht
      | cons e t =>
        have htail := (List.cons.inj hfold).2
        have hmem : '<' ∈ '/' :: name := by
          rw [← htail]
          exact List.mem_map.2 ⟨'<', by simp, by decide⟩
        exact absurd hmem (by simp [hname])
  · cases a with
    | nil => exact absurd (List.cons.inj ha).1 hc
    | cons d a =>
      obtain rfl := (List.cons.inj ha).1
      exact atEndTag_iff.2 ⟨s, c, a, rfl, hfold, hend⟩

theorem atEndTag_cons_of_ne {name : Text} {c : Char} (h : c ≠ '<') (t : Text) :
    atEndTag name (c :: t) = false := by
  refine Bool.eq_false_iff.2 fun hat => h ?_
  obtain ⟨s, d, r, heq, hfold, -⟩ := atEndTag_iff.1 hat
  cases s with
  | nil => cases hfold
  | cons e s =>
    obtain rfl := (List.cons.inj heq).1
    exact eq_of_toLower_eq (List.cons.inj hfold).1 (by decide)

theorem fromEndTag_of_atEndTag {name t : Text} (h : atEndTag name t = true) :
    fromEndTag name t = t := by
  cases t with
  | nil => rfl
  | cons c t => rw [fromEndTag, if_pos h]

/-- What was read up to an end tag is the start of the text. -/
theorem beforeEndTag_append (name t : Text) : ∃ rest, beforeEndTag name t ++ rest = t := by
  induction t with
  | nil => exact ⟨[], rfl⟩
  | cons c t ih =>
    rw [beforeEndTag]
    split
    · exact ⟨c :: t, rfl⟩
    · obtain ⟨rest, hrest⟩ := ih
      exact ⟨rest, congrArg (c :: ·) hrest⟩

/-- No end tag of an element is in a text that stands in front of it. -/
def Unclosed (name t : Text) : Prop :=
  ∀ rest, fromEndTag name (t ++ (closingTag name ++ rest)) = closingTag name ++ rest

section
variable {name : Text} (hname : TagName name)
include hname

theorem unclosed_of_not_atEndTag {t : Text}
    (h : ∀ u, u <:+ t → u ≠ [] → ∀ rest, atEndTag name (u ++ '<' :: rest) = false) :
    Unclosed name t := by
  intro rest
  induction t with
  | nil =>
    have hfold : foldName ('<' :: '/' :: name) = '<' :: '/' :: name :=
      congrArg ('<' :: '/' :: ·) hname.folded
    refine fromEndTag_of_atEndTag (atEndTag_iff.2 ⟨_, '>', rest, ?_, hfold, by decide⟩)
    simp [closingTag]
  | cons c t ih =>
    have hopen := h (c :: t) List.suffix_rfl (List.cons_ne_nil c t) ('/' :: (name ++ '>' :: rest))
    rw [← closingTag_append, List.cons_append] at hopen
    rw [List.cons_append, fromEndTag, if_neg (by simp [hopen])]
    exact ih fun u hu => h u (hu.trans (List.suffix_cons c t))

/-- No end tag begins where no bracket is. -/
theorem unclosed_of_no_bracket {t : Text} (h : '<' ∉ t) : Unclosed name t := by
  refine unclosed_of_not_atEndTag hname fun u hu hne rest => ?_
  cases u with
  | nil => exact absurd rfl hne
  | cons c u =>
    refine atEndTag_cons_of_ne ?_ _
    rintro rfl
    exact h (hu.subset List.mem_cons_self)

/-- What was read up to an end tag holds none. -/
theorem unclosed_beforeEndTag (hbracket : '<' ∉ name) (t : Text) :
    Unclosed name (beforeEndTag name t) := by
  refine unclosed_of_not_atEndTag hname fun u hu hne rest => Bool.eq_false_iff.2 fun hat => ?_
  replace hat := atEndTag_of_append hbracket hne hat
  induction t with
  | nil => exact hne (List.suffix_nil.1 hu)
  | cons c t ih =>
    rw [beforeEndTag] at hu
    split at hu
    · exact hne (List.suffix_nil.1 hu)
    · next hopen =>
      rcases List.suffix_cons_iff.1 hu with rfl | hu
      · obtain ⟨v, hv⟩ := beforeEndTag_append name t
        exact hopen (by simpa [hv] using atEndTag_append hat v)
      · exact ih hu

end

section
variable {name : Text} {as : List Attribute} (h : ProperTag name as) (rest : Text)
include h

theorem ProperTag.attributeName_prepared :
    ∀ a ∈ as.map Attribute.prepared, AttributeName a.name := by
  intro a ha
  obtain ⟨b, hb, rfl⟩ := List.mem_map.1 ha
  exact (h.attributes b hb).1

theorem marksIn_closingTag : marksIn (closingTag name ++ rest) = .endTag name :: marksIn rest := by
  rw [marksIn, prepared_closingTag h.stable, tokens_closingTag h.tagName]
  rfl

theorem marksIn_emptyTag :
    marksIn (emptyTag name as ++ rest) = .startTag name (readAttributes as) true :: marksIn rest := by
  rw [marksIn, prepared_emptyTag h.stable fun a ha => (h.attributes a ha).2,
    tokens_emptyTag h.tagName h.attributeName_prepared]
  rfl

theorem marksIn_openingTag (hrule : ContentRule.of name = .markup) :
    marksIn (openingTag name as ++ rest) =
      .startTag name (readAttributes as) false :: marksIn rest := by
  rw [marksIn, prepared_openingTag h.stable fun a ha => (h.attributes a ha).2,
    tokens_openingTag h.tagName h.attributeName_prepared hrule]
  rfl

/-- In an element that holds no markup nothing is found but its end tag. -/
theorem marksIn_raw (hrule : ContentRule.of name ≠ .markup) {t : Text}
    (ht : Unclosed name (prepared t)) :
    marksIn (openingTag name as ++ (t ++ (closingTag name ++ rest))) =
      .startTag name (readAttributes as) false :: .endTag name :: marksIn rest := by
  obtain ⟨u, hu⟩ := tokens_openingTag_raw h.tagName h.attributeName_prepared hrule
    (prepared t ++ (closingTag name ++ prepared rest))
  have hmarks : marks (textToken u) = [] := by
    cases u with
    | nil => rfl
    | cons c u => rfl
  have hprepared : prepared (openingTag name as ++ (t ++ (closingTag name ++ rest))) =
      openingTag name (as.map Attribute.prepared) ++
        (prepared t ++ (closingTag name ++ prepared rest)) := by
    rw [prepared_openingTag h.stable fun a ha => (h.attributes a ha).2, closingTag_append,
      prepared_append (by decide), ← closingTag_append, prepared_closingTag h.stable]
  rw [marksIn, hprepared, hu, ht, tokens_closingTag h.tagName, marks, List.filter_cons_of_pos rfl,
    List.filter_append, ← marks, hmarks]
  rfl

end

/-! ## Comments and declarations -/

/-- A text that begins with the end of a comment. -/
def ClosesComment (t : Text) : Prop := ['-', '-', '>'] <+: t ∨ ['-', '-', '!', '>'] <+: t

/-- A text that can stand in a comment: it does not end it, neither at once nor later. -/
structure CommentText (t : Text) : Prop where
  stays : ∀ u, u <:+ t → ¬ClosesComment u
  starts : ¬['>'] <+: t ∧ ¬['-', '>'] <+: t

/-- The end of a comment does not begin in front of its first character. -/
theorem closesComment_of_append {u s : Text} (hu : u ≠ [])
    (h : ClosesComment (u ++ '-' :: '-' :: '>' :: s)) : ClosesComment u := by
  rcases u with _ | ⟨a, _ | ⟨b, _ | ⟨c, _ | ⟨d, u⟩⟩⟩⟩
  · exact absurd rfl hu
  · simp [ClosesComment, List.cons_prefix_cons] at h
  · simp [ClosesComment, List.cons_prefix_cons] at h
  · simpa [ClosesComment, List.cons_prefix_cons] using h
  · simpa [ClosesComment, List.cons_prefix_cons] using h

theorem comment_append {t : Text} (h : ∀ u, u <:+ t → ¬ClosesComment u) (s : Text) :
    comment (t ++ '-' :: '-' :: '>' :: s) = (t, s) := by
  induction t with
  | nil => rfl
  | cons c t ih =>
    have hopen : ¬ClosesComment (c :: t ++ '-' :: '-' :: '>' :: s) := fun hc =>
      h _ List.suffix_rfl (closesComment_of_append (List.cons_ne_nil c t) hc)
    rw [List.cons_append, comment]
    · rw [ih fun u hu => h u (hu.trans (List.suffix_cons c t))]
    · exact fun r hc hr => hopen (.inl ⟨r, by simp [hc, hr]⟩)
    · exact fun r hc hr => hopen (.inr ⟨r, by simp [hc, hr]⟩)

/-- A written comment is found. -/
theorem marksIn_comment {t : Text} (h : CommentText t) (hstable : t.all isStable = true)
    (rest : Text) :
    marksIn ("<!--".toList ++ t ++ "-->".toList ++ rest) = .comment t :: marksIn rest := by
  have hprepared : prepared ("<!--".toList ++ t ++ "-->".toList ++ rest) =
      "<!--".toList ++ t ++ "-->".toList ++ prepared rest := by
    refine prepared_append_of_stable ?_ rest
    rw [List.all_append, List.all_append, hstable]
    decide
  have hread : commentOrEmpty (t ++ '-' :: '-' :: '>' :: prepared rest) = (t, prepared rest) := by
    rw [commentOrEmpty]
    · exact comment_append h.stays _
    · intro r hr
      cases t with
      | nil => cases hr
      | cons c t => exact h.starts.1 (by simp_all)
    · intro r hr
      rcases t with _ | ⟨c, _ | ⟨d, t⟩⟩
      · simp at hr
      · simp at hr
      · exact h.starts.2 (by simp_all)
  have hopen : opening ('!' :: '-' :: '-' :: (t ++ '-' :: '-' :: '>' :: prepared rest)) =
      .found [.comment t] (prepared rest) := by
    rw [opening, hread]
  rw [marksIn, hprepared]
  calc marks (tokens ("<!--".toList ++ t ++ "-->".toList ++ prepared rest))
    _ = marks (tokens ('<' :: '!' :: '-' :: '-' :: (t ++ '-' :: '-' :: '>' :: prepared rest))) := by
      simp
    _ = .comment t :: marksIn rest := by
      rw [tokens_found hopen]
      rfl

/-- A written declaration is found. -/
theorem marksIn_doctype {t : Text} (hbracket : '>' ∉ t) (hstable : t.all isStable = true)
    (rest : Text) :
    marksIn ("<!DOCTYPE ".toList ++ t ++ ">\n".toList ++ rest) =
      .doctype (doctypeContent (' ' :: t)) :: marksIn rest := by
  have hprepared : prepared ("<!DOCTYPE ".toList ++ t ++ ">\n".toList ++ rest) =
      "<!DOCTYPE ".toList ++ t ++ ">\n".toList ++ prepared rest := by
    refine prepared_append_of_stable ?_ rest
    rw [List.all_append, List.all_append, hstable]
    decide
  have hno : ∀ c ∈ "DOCTYPE ".toList ++ t, (c != '>') = true := by
    intro c hc
    rw [bne_iff_ne]
    rintro rfl
    exact (List.mem_append.1 hc).elim (by decide) hbracket
  have hthrough : throughBracket ("DOCTYPE ".toList ++ t ++ '>' :: '\n' :: prepared rest) =
      ("DOCTYPE ".toList ++ t, '\n' :: prepared rest) := by
    rw [throughBracket, List.takeWhile_append_of_pos hno, List.dropWhile_append_of_pos hno]
    simp
  have hopen : opening ('!' :: ("DOCTYPE ".toList ++ t ++ '>' :: '\n' :: prepared rest)) =
      .found [.doctype (doctypeContent (' ' :: t))] ('\n' :: prepared rest) := by
    rw [opening, hthrough]
    · rfl
    · simp
  have hfeed : marks (tokens ('\n' :: prepared rest)) = marksIn rest :=
    marksIn_append (t := ['\n']) (by decide) rest
  rw [marksIn, hprepared]
  calc marks (tokens ("<!DOCTYPE ".toList ++ t ++ ">\n".toList ++ prepared rest))
    _ = marks (tokens ('<' :: '!' :: ("DOCTYPE ".toList ++ t ++ '>' :: '\n' :: prepared rest))) := by
      simp
    _ = .doctype (doctypeContent (' ' :: t)) :: marksIn rest := by
      rw [tokens_found hopen, ← hfeed]
      rfl

/-! ## Nodes -/

mutual

/-- The marks that are found where a node was written. -/
def Node.marks : Node → List Token
  | .text _ _ => []
  | .comment t => [.comment t]
  | .doctype t => [.doctype (doctypeContent (' ' :: t))]
  | .element name as [] =>
    if isWrittenVoid name then [.startTag name (readAttributes as) true]
    else [.startTag name (readAttributes as) false, .endTag name]
  | .element name as (n :: ns) =>
    .startTag name (readAttributes as) false :: (n.marks ++ nodeMarks ns ++ [.endTag name])

/-- The marks that are found where nodes were written. -/
def nodeMarks : List Node → List Token
  | [] => []
  | n :: ns => n.marks ++ nodeMarks ns

end

/-- A node that is read back as it was written, but for its texts. -/
inductive Writable : Node → Prop
  | text (region : Region) (t : Text) : Writable (.text region t)
  | comment {t : Text} (ht : CommentText t) (hstable : t.all isStable = true) : Writable (.comment t)
  | doctype {t : Text} (ht : '>' ∉ t) (hstable : t.all isStable = true) : Writable (.doctype t)
  | element {name : Text} {as : List Attribute} {children : List Node} (htag : ProperTag name as)
      (hrule : ContentRule.of name = .markup) (h : ∀ n ∈ children, Writable n) :
      Writable (.element name as children)
  | raw {name : Text} {as : List Attribute} {children : List Node} (htag : ProperTag name as)
      (hrule : ContentRule.of name ≠ .markup)
      (htexts : ∀ n ∈ children, ∃ region t, n = .text region t)
      (hclosed : isVerbatim name = true → Unclosed name (prepared (writeAll true children))) :
      Writable (.element name as children)

theorem eq_of_isVerbatim {name : Text} (h : isVerbatim name = true) :
    name = "script".toList ∨ name = "style".toList := by
  rw [isVerbatim, Bool.or_eq_true, decide_eq_true_eq, decide_eq_true_eq] at h
  exact h

theorem rule_of_isVerbatim {name : Text} (h : isVerbatim name = true) :
    ContentRule.of name = .verbatim := by
  rcases eq_of_isVerbatim h with rfl | rfl
  · decide +kernel
  · decide +kernel

theorem isVerbatim_of_rule {name : Text} (h : ContentRule.of name = .markup) :
    isVerbatim name = false := by
  refine Bool.eq_false_iff.2 fun hverbatim => ?_
  rw [rule_of_isVerbatim hverbatim] at h
  cases h

theorem bracket_notMem_of_isVerbatim {name : Text} (h : isVerbatim name = true) : '<' ∉ name := by
  rcases eq_of_isVerbatim h with rfl | rfl
  · decide
  · decide

/-- What is written of texts holds no brackets. -/
theorem bracket_notMem_writeAll {ns : List Node} (h : ∀ n ∈ ns, ∃ region t, n = .text region t) :
    '<' ∉ writeAll false ns := by
  induction ns with
  | nil => exact List.not_mem_nil
  | cons n ns ih =>
    obtain ⟨⟨region, t, rfl⟩, hns⟩ := List.forall_mem_cons.1 h
    rw [writeAll, List.mem_append, not_or]
    exact ⟨bracket_not_mem_escape t, ih hns⟩

/-- An element is written as its tags around its content, or as one tag. -/
theorem write_element_eq (name : Text) (as : List Attribute) (children : List Node) :
    (Node.element name as children).write false =
      if children.isEmpty && isWrittenVoid name then emptyTag name as
      else openingTag name as ++ (writeAll (isVerbatim name) children ++ closingTag name) := by
  cases children with
  | nil => rfl
  | cons n ns =>
    rw [← List.append_assoc]
    rfl

theorem marks_element_eq (name : Text) (as : List Attribute) (children : List Node) :
    (Node.element name as children).marks =
      if children.isEmpty && isWrittenVoid name then [.startTag name (readAttributes as) true]
      else .startTag name (readAttributes as) false :: (nodeMarks children ++ [.endTag name]) := by
  cases children with
  | nil => rfl
  | cons n ns => rfl

theorem nodeMarks_texts {ns : List Node} (h : ∀ n ∈ ns, ∃ region t, n = .text region t) :
    nodeMarks ns = [] := by
  induction ns with
  | nil => rfl
  | cons n ns ih =>
    obtain ⟨⟨region, t, rfl⟩, hns⟩ := List.forall_mem_cons.1 h
    exact ih hns

/-- Nodes are read back one after the other. -/
theorem marksIn_writeAll_of {ns : List Node}
    (h : ∀ n ∈ ns, ∀ rest, marksIn (n.write false ++ rest) = n.marks ++ marksIn rest) (rest : Text) :
    marksIn (writeAll false ns ++ rest) = nodeMarks ns ++ marksIn rest := by
  induction ns with
  | nil => rfl
  | cons n ns ih =>
    obtain ⟨hn, hns⟩ := List.forall_mem_cons.1 h
    rw [writeAll, nodeMarks, List.append_assoc, hn, ih hns, List.append_assoc]

/-- **The marks of what is written** are those of the nodes, whatever their texts are. -/
theorem Writable.marksIn_write {n : Node} (h : Writable n) (rest : Text) :
    marksIn (n.write false ++ rest) = n.marks ++ marksIn rest := by
  induction h generalizing rest with
  | text region t => exact marksIn_append (bracket_not_mem_escape t) rest
  | comment ht hstable => exact marksIn_comment ht hstable rest
  | doctype ht hstable => exact marksIn_doctype ht hstable rest
  | @element name as children htag hrule _ ih =>
    rw [write_element_eq, marks_element_eq, isVerbatim_of_rule hrule]
    split
    · exact marksIn_emptyTag htag rest
    · rw [List.append_assoc, List.append_assoc, marksIn_openingTag htag _ hrule,
        marksIn_writeAll_of ih, marksIn_closingTag htag]
      simp
  | @raw name as children htag hrule htexts hclosed =>
    rw [write_element_eq, marks_element_eq, nodeMarks_texts htexts]
    split
    · exact marksIn_emptyTag htag rest
    · have hunclosed : Unclosed name (prepared (writeAll (isVerbatim name) children)) := by
        cases hverbatim : isVerbatim name with
        | true => exact hclosed hverbatim
        | false =>
          refine unclosed_of_no_bracket htag.tagName ?_
          rw [mem_prepared (by decide)]
          exact bracket_notMem_writeAll htexts
      rw [List.append_assoc, List.append_assoc, marksIn_raw htag rest hrule hunclosed]
      rfl

theorem marksIn_writeAll {ns : List Node} (h : ∀ n ∈ ns, Writable n) (rest : Text) :
    marksIn (writeAll false ns ++ rest) = nodeMarks ns ++ marksIn rest :=
  marksIn_writeAll_of (fun n hn => (h n hn).marksIn_write) rest

/-- What is read of a written fragment depends on the marks of its nodes, but for the texts. -/
theorem bare_readWith_write (keeps : Text → Bool) {ns : List Node} (h : ∀ n ∈ ns, Writable n) :
    bare (readWith keeps (write ns)) = dissolveWrapper (nodes keeps
      (.startTag wrapperName [] false :: (nodeMarks ns ++ [.endTag wrapperName]))) := by
  have htag : ProperTag wrapperName [] :=
    ⟨tagName_div, by decide, fun _ ha => absurd ha List.not_mem_nil⟩
  have hopen : "<div>".toList = openingTag wrapperName [] := by
    rw [openingTag, writtenAttributes, List.mergeSort_nil]
    rfl
  have hclose : "</div>".toList = closingTag wrapperName := rfl
  have hread : readAttributes [] = [] := by
    rw [readAttributes, List.map_nil, ordered_nil]
    rfl
  have hmarks : marksIn ("<div>".toList ++ write ns ++ "</div>".toList) =
      .startTag wrapperName [] false :: (nodeMarks ns ++ [.endTag wrapperName]) := by
    rw [hopen, hclose, List.append_assoc, marksIn_openingTag htag _ rule_div, write,
      marksIn_writeAll h, ← List.append_nil (closingTag wrapperName), marksIn_closingTag htag, hread,
      marksIn, prepared, tokens]
    rfl
  rw [bare_readWith, ← marksIn, hmarks]

end LiveText.Markup
