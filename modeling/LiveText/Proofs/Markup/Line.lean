import LiveText.Proofs.Markup.Tag

/-!
# The tokens of paragraphs

A paragraph is written piece by piece, and neighbouring texts run together, so its tokens are those
of its content with the texts joined. The induction behind `tokens_line` is on the content of the
paragraph, with the text in front of what is left of it kept open: that text may still grow.
-/

set_option autoImplicit false

namespace LiveText.Markup

open Text

/-! ## Joining -/

/-- The piece of a text, unless the text is empty. -/
def textPiece : Text → Line
  | [] => []
  | t => [.text t]

theorem textPiece_of_ne_nil {t : Text} (h : t ≠ []) : textPiece t = [.text t] := by
  cases t with
  | nil => exact absurd rfl h
  | cons c t => rfl

theorem Line.joined_text {t : Text} (h : t ≠ []) (l : Line) :
    joined (.text t :: l) = (joined l).prepend t := by
  rw [joined]
  exact h

theorem Line.joined_tag (as : List Attribute) (label : Text) (l : Line) :
    joined (.tag as label :: l) = .tag as label :: joined l := by
  rw [joined]
  · exact fun h => Piece.noConfusion h
  · exact fun t h => Piece.noConfusion h

theorem Line.prepend_prepend (t u : Text) (l : Line) :
    (Line.prepend u l).prepend t = l.prepend (t ++ u) := by
  cases l with
  | nil => rfl
  | cons p l =>
    cases p with
    | text v => rw [prepend, prepend, prepend, List.append_assoc]
    | tag as label => rfl

/-- Two neighbouring texts count as one. -/
theorem Line.joined_text_text (t u : Text) (l : Line) :
    joined (.text t :: .text u :: l) = joined (.text (t ++ u) :: l) := by
  by_cases ht : t = []
  · subst ht
    rfl
  by_cases hu : u = []
  · subst hu
    rw [List.append_nil, joined_text ht, joined_text ht]
    rfl
  · rw [joined_text ht, joined_text hu, prepend_prepend, joined_text (by simp [ht])]

/-- A tag ends the text in front of it. -/
theorem Line.joined_text_tag (t : Text) (as : List Attribute) (label : Text) (l : Line) :
    joined (.text t :: .tag as label :: l) = textPiece t ++ .tag as label :: joined l := by
  by_cases ht : t = []
  · subst ht
    exact joined_tag as label l
  · rw [joined_text ht, joined_tag, textPiece_of_ne_nil ht]
    rfl

theorem Line.joined_text_nil (t : Text) : joined [.text t] = textPiece t := by
  by_cases ht : t = []
  · subst ht
    rfl
  · rw [joined_text ht, textPiece_of_ne_nil ht]
    rfl

/-- What is joined stays joined when its texts and tags are replaced by others, if no text becomes
empty. -/
theorem Line.joined_map_joined {f : Piece → Piece} {g : Text → Text} (hg : ∀ t, t ≠ [] → g t ≠ [])
    (htext : ∀ t, f (.text t) = .text (g t))
    (htag : ∀ as label, ∃ as' label', f (.tag as label) = .tag as' label') (l : Line) :
    joined (l.joined.map f) = l.joined.map f := by
  -- the text in front of the rest is kept open, since it may still grow
  have open_text : ∀ t : Text,
      joined ((joined (.text t :: l)).map f) = (joined (.text t :: l)).map f := by
    induction l with
    | nil =>
      intro t
      by_cases ht : t = []
      · subst ht
        rfl
      · rw [joined_text_nil, textPiece_of_ne_nil ht, List.map_singleton, htext, joined_text_nil,
          textPiece_of_ne_nil (hg t ht)]
    | cons p l ih =>
      intro t
      cases p with
      | text u => rw [joined_text_text, ih]
      | tag as label =>
        have hl : joined ((joined l).map f) = (joined l).map f := ih []
        obtain ⟨as', label', hf⟩ := htag as label
        by_cases ht : t = []
        · subst ht
          change joined ((joined (.tag as label :: l)).map f) = (joined (.tag as label :: l)).map f
          rw [joined_tag, List.map_cons, hf, joined_tag, hl]
        · rw [joined_text_tag, textPiece_of_ne_nil ht, List.singleton_append, List.map_cons,
            List.map_cons, htext, hf, joined_text_tag, hl, textPiece_of_ne_nil (hg t ht),
            List.singleton_append]
  exact open_text []

/-- What is joined stays as it is. -/
theorem Line.joined_joined (l : Line) : l.joined.joined = l.joined := by
  have hmap := joined_map_joined (f := id) (g := id) (fun _ ht => ht) (fun _ => rfl)
    (fun as label => ⟨as, label, rfl⟩) l
  rwa [List.map_id] at hmap

/-! ## Tokens -/

theorem ordered_nil : ordered [] = [] := List.mergeSort_nil

/-- The tokens of a piece. -/
def Piece.tokens : Piece → List Token
  | text t => [.text t]
  | tag as label =>
    [.startTag spanName (Markup.ordered as) false, .text label, .endTag spanName]

theorem tagName_span : TagName spanName := by decide

theorem tagName_paragraph : TagName paragraphName := by decide

theorem tagName_div : TagName wrapperName := by decide

theorem rule_span : ContentRule.of spanName = .markup := by decide

theorem rule_paragraph : ContentRule.of paragraphName = .markup := by decide

theorem rule_div : ContentRule.of wrapperName = .markup := by decide

theorem escape_append (s t : Text) : escape (s ++ t) = escape s ++ escape t := List.flatMap_append

theorem write_prose (t : Text) : (Node.prose t).write false = escape t := rfl

theorem writeAll_cons (n : Node) (ns : List Node) :
    writeAll false (n :: ns) = n.write false ++ writeAll false ns := rfl

theorem write_element {name : Text} (hverbatim : isVerbatim name = false)
    (hvoid : isWrittenVoid name = false) (as : List Attribute) (ns : List Node) :
    (Node.element name as ns).write false =
      openingTag name as ++ (writeAll false ns ++ closingTag name) := by
  cases ns with
  | nil =>
    calc (Node.element name as []).write false
      _ = if isWrittenVoid name then emptyTag name as else openingTag name as ++ closingTag name :=
        rfl
      _ = _ := by rw [hvoid, if_neg (by decide), writeAll, List.nil_append]
  | cons n ns =>
    calc (Node.element name as (n :: ns)).write false
      _ = openingTag name as ++ writeAll (isVerbatim name) (n :: ns) ++ closingTag name := rfl
      _ = _ := by rw [hverbatim, List.append_assoc]

theorem writeAll_eq_flatMap (ns : List Node) : writeAll false ns = ns.flatMap (Node.write false) := by
  induction ns with
  | nil => rfl
  | cons n ns ih => rw [writeAll_cons, ih, List.flatMap_cons]

theorem openingTag_nil (name : Text) : openingTag name [] = '<' :: (name ++ ['>']) := by
  rw [openingTag, writtenAttributes, List.mergeSort_nil, List.flatMap_nil, List.append_nil]

theorem write_tag (as : List Attribute) (label : Text) :
    (Piece.tag as label).node.write false =
      openingTag spanName as ++ (escape label ++ closingTag spanName) := by
  rw [Piece.node, write_element (by decide) (by decide +kernel), writeAll_cons, write_prose,
    writeAll, List.append_nil]

theorem write_paragraph (l : Line) :
    (paragraph l).write false =
      openingTag paragraphName [] ++
        (writeAll false (l.map Piece.node) ++ closingTag paragraphName) :=
  write_element (by decide) (by decide +kernel) [] _

/-- A bracket stands behind what is written of a paragraph. -/
theorem tokens_line {l : Line} (h : ∀ p ∈ l, p.Proper) (t rest : Text) :
    tokens (escape t ++ (writeAll false (l.map Piece.node) ++ '<' :: rest)) =
      (Line.joined (.text t :: l)).flatMap Piece.tokens ++ tokens ('<' :: rest) := by
  induction l generalizing t with
  | nil =>
    rw [List.map_nil, writeAll, List.nil_append, Line.joined_text_nil]
    by_cases ht : t = []
    · subst ht
      rfl
    · rw [tokens_text ht, textPiece_of_ne_nil ht]
      rfl
  | cons p l ih =>
    obtain ⟨hp, hl⟩ := List.forall_mem_cons.1 h
    cases p with
    | text u =>
      rw [Line.joined_text_text, ← ih hl, escape_append, List.map_cons, writeAll_cons, Piece.node,
        write_prose, List.append_assoc, List.append_assoc]
    | tag as label =>
      have has : ∀ a ∈ as, AttributeName a.name := fun a ha => (hp.2.2 a ha).1.attributeName
      have htag : tokens (openingTag spanName as ++ (escape label ++ (closingTag spanName ++
          (writeAll false (l.map Piece.node) ++ '<' :: rest)))) =
          (Piece.tag as label :: Line.joined l).flatMap Piece.tokens ++ tokens ('<' :: rest) := by
        rw [tokens_openingTag tagName_span has rule_span, firstOfEach_ordered hp.2.1,
          closingTag_append, tokens_text hp.1, ← closingTag_append, tokens_closingTag tagName_span,
          List.flatMap_cons, List.append_assoc]
        exact congrArg ((Piece.tag as label).tokens ++ ·) (ih hl [])
      rw [List.map_cons, writeAll_cons, write_tag, Line.joined_text_tag, List.append_assoc,
        List.append_assoc, List.append_assoc, List.flatMap_append, List.append_assoc, ← htag]
      by_cases ht : t = []
      · subst ht
        rfl
      · rw [textPiece_of_ne_nil ht, openingTag_append, tokens_text ht]
        rfl

/-- The tokens of a paragraph. -/
def lineTokens (l : Line) : List Token :=
  .startTag paragraphName [] false :: (l.joined.flatMap Piece.tokens ++ [.endTag paragraphName])

theorem tokens_paragraph {l : Line} (h : ∀ p ∈ l, p.Proper) (rest : Text) :
    tokens ((paragraph l).write false ++ rest) = lineTokens l ++ tokens rest := by
  rw [write_paragraph, List.append_assoc, List.append_assoc,
    tokens_openingTag tagName_paragraph (by simp) rule_paragraph, closingTag_append]
  have hline := tokens_line h [] ('/' :: (paragraphName ++ '>' :: rest))
  rw [← closingTag_append, tokens_closingTag tagName_paragraph] at hline
  rw [closingTag_append] at hline
  rw [lineTokens, List.cons_append, List.append_assoc, firstOfEach_ordered (by simp), ordered_nil]
  exact congrArg (Token.startTag paragraphName [] false :: ·) hline

theorem tokens_paragraphs {d : List Line} (h : ∀ l ∈ d, ∀ p ∈ l, p.Proper) (rest : Text) :
    tokens (write (d.map paragraph) ++ rest) = d.flatMap lineTokens ++ tokens rest := by
  induction d with
  | nil => rfl
  | cons l d ih =>
    obtain ⟨hl, hd⟩ := List.forall_mem_cons.1 h
    rw [write] at ih ⊢
    rw [List.map_cons, writeAll_cons, List.append_assoc, tokens_paragraph hl, ih hd,
      List.flatMap_cons, List.append_assoc]

/-- The tokens of a document between the tags of its wrapper. -/
theorem tokens_wrapped {d : List Line} (h : ∀ l ∈ d, ∀ p ∈ l, p.Proper) :
    tokens ("<div>".toList ++ write (d.map paragraph) ++ "</div>".toList) =
      .startTag wrapperName [] false :: (d.flatMap lineTokens ++ [.endTag wrapperName]) := by
  have hopen : "<div>".toList = openingTag wrapperName [] := (openingTag_nil wrapperName).symm
  have hclose : "</div>".toList = closingTag wrapperName := rfl
  rw [hopen, hclose, List.append_assoc, tokens_openingTag tagName_div (by simp) rule_div,
    tokens_paragraphs h, ← List.append_nil (closingTag wrapperName), tokens_closingTag tagName_div,
    tokens, firstOfEach_ordered (by simp), ordered_nil]

end LiveText.Markup
