import LiveText.Proofs.Markup.Line

/-!
# Assembling paragraphs

From the tokens of a document made of paragraphs its nodes are assembled. `inWrapper`, `inParagraph`
and `inTag` are the states between the tokens: the wrapper is open, a paragraph in it, a tag in that
one. `fold_line` is the run over one paragraph, `nodes_wrapped` the one over a document.

A reader may shorten texts that are blank (`Piece.settled`); `Keeps` says of a text that it is left as
it is.
-/

set_option autoImplicit false

namespace LiveText.Markup

open Text

/-! ## Assembling -/

/-- The text of a piece. -/
def Piece.content : Piece → Text
  | text t => t
  | tag _ label => label

/-- A reader keeps a text in a paragraph as it is. -/
def Keeps (keeps : Text → Bool) (t : Text) : Prop :=
  keeps paragraphName = true ∨ Assembly.shortenBlanks t = t

/-- A reader keeps the texts and labels of a paragraph. -/
def Kept (keeps : Text → Bool) (l : Line) : Prop := ∀ p ∈ l, Keeps keeps p.content

/-- What a reader makes of a text in open elements. -/
def settledIn (keeps : Text → Bool) (names : List Text) (t : Text) : Text :=
  if names.any keeps then t else Assembly.shortenBlanks t

/-- What a reader makes of a text in a paragraph. -/
def settledText (keeps : Text → Bool) (t : Text) : Text :=
  settledIn keeps [paragraphName, wrapperName] t

/-- What a reader makes of a piece of a paragraph. -/
def Piece.settled (keeps : Text → Bool) : Piece → Piece
  | text t => text (settledText keeps t)
  | tag as label => tag as (settledIn keeps [spanName, paragraphName, wrapperName] label)

/-- What a reader makes of a paragraph that was written. -/
def readBackBy (keeps : Text → Bool) (l : Line) : Node :=
  paragraph ((l.joined.map (Piece.settled keeps)).map Piece.ordered)

theorem settledIn_of_keeps {keeps : Text → Bool} {t : Text} (h : Keeps keeps t) {names : List Text}
    (hp : paragraphName ∈ names) : settledIn keeps names t = t := by
  rcases h with hk | hs
  · exact if_pos (List.any_eq_true.2 ⟨paragraphName, hp, hk⟩)
  · rw [settledIn, hs, ite_self]

theorem settled_of_keeps {keeps : Text → Bool} {p : Piece} (h : Keeps keeps p.content) :
    p.settled keeps = p := by
  cases p with
  | text t => exact congrArg Piece.text (settledIn_of_keeps h (by simp))
  | tag as label => exact congrArg (Piece.tag as) (settledIn_of_keeps h (by simp))

/-- What a reader keeps is read back as it was written. -/
theorem readBackBy_of_kept {keeps : Text → Bool} {l : Line} (h : Kept keeps l.joined) :
    readBackBy keeps l = readBack l := by
  have hsettled : l.joined.map (Piece.settled keeps) = l.joined :=
    (List.map_congr_left fun p hp => settled_of_keeps (h p hp)).trans (List.map_id _)
  rw [readBackBy, hsettled, readBack]

/-- The wrapper that is being assembled, with the nodes `ms`. -/
def inWrapper (keeps : Text → Bool) (ms : List Node) : Assembly :=
  { keeps, openElements := [⟨wrapperName, [], ms⟩] }

/-- The paragraph that is being assembled: `ms` are the nodes in front of it, `ns` its own ones, and
`t` the text that is gathered. -/
def inParagraph (keeps : Text → Bool) (ms ns : List Node) (t : Text) : Assembly :=
  { keeps, openElements := [⟨paragraphName, [], ns⟩, ⟨wrapperName, [], ms⟩], gathered := t }

/-- The tag in a paragraph that is being assembled. -/
def inTag (keeps : Text → Bool) (ms ns : List Node) (as : List Attribute) (t : Text) : Assembly :=
  { keeps
    openElements := [⟨spanName, as, []⟩, ⟨paragraphName, [], ns⟩, ⟨wrapperName, [], ms⟩]
    gathered := t }

section
variable {a : Assembly} (h : a.ended = false)
include h

theorem step_text (t : Text) : a.step (.text t) = { a with gathered := a.gathered ++ t } := by
  rw [Assembly.step, if_neg (by simp [h])]

theorem step_startTag (name : Text) (as : List Attribute) (closed : Bool) :
    a.step (.startTag name as closed) = a.start name as closed := by
  rw [Assembly.step, if_neg (by simp [h])]

theorem step_endTag (name : Text) : a.step (.endTag name) = a.stop name := by
  rw [Assembly.step, if_neg (by simp [h])]

end

/-- The text that is gathered becomes a node of the innermost open element. -/
theorem settle_eq {a : Assembly} {e : OpenElement} {es : List OpenElement}
    (hne : a.gathered ≠ []) (hopen : a.openElements = e :: es) (hregion : a.region = .prose) :
    a.settle = { a with
      gathered := []
      openElements :=
        { e with nodes := .prose (settledIn a.keeps a.openNames a.gathered) :: e.nodes } :: es } := by
  have hempty : ¬a.gathered.isEmpty = true := by
    rw [List.isEmpty_iff]
    exact hne
  rw [Assembly.settle, if_neg hempty, hregion]
  dsimp only [Assembly.push]
  rw [hopen]
  rfl

section
variable {keeps : Text → Bool} (ms ns : List Node) {t : Text}

theorem settle_inTag (hne : t ≠ []) (as : List Attribute) :
    (inTag keeps ms ns as t).settle =
      { keeps
        openElements := [
          ⟨spanName, as, [.prose (settledIn keeps [spanName, paragraphName, wrapperName] t)]⟩,
          ⟨paragraphName, [], ns⟩, ⟨wrapperName, [], ms⟩] } :=
  settle_eq (a := inTag keeps ms ns as t) hne rfl rfl

theorem stop_tag (hne : t ≠ []) (as : List Attribute) :
    (inTag keeps ms ns as t).stop spanName =
      inParagraph keeps ms (((Piece.tag as t).settled keeps).node :: ns) [] := by
  have hclose : (inTag keeps ms ns as t).stop spanName = (inTag keeps ms ns as t).close := rfl
  rw [hclose, Assembly.close, settle_inTag ms ns hne as]
  rfl

theorem settle_inParagraph :
    (inParagraph keeps ms ns t).settle =
      inParagraph keeps ms ((textPiece t).map (fun p => (p.settled keeps).node) ++ ns) [] := by
  by_cases hne : t = []
  · subst hne
    rfl
  · rw [textPiece_of_ne_nil hne]
    exact settle_eq (a := inParagraph keeps ms ns t) hne rfl rfl

theorem start_tag {as : List Attribute} (has : ∀ a ∈ as, a.tidied spanName = a) :
    (inParagraph keeps ms ns t).start spanName as false =
      inTag keeps ms ((textPiece t).map (fun p => (p.settled keeps).node) ++ ns) as [] := by
  have hends : endsBefore spanName paragraphName = false := by decide +kernel
  have hbefore : (inParagraph keeps ms ns t).closeBefore spanName = inParagraph keeps ms ns t := by
    rw [Assembly.closeBefore, Assembly.openNames, inParagraph, List.map_cons,
      List.takeWhile_cons_of_neg (by simp [hends])]
    rfl
  have htidied : as.map (Attribute.tidied spanName) = as := by
    calc as.map (Attribute.tidied spanName) = as.map id := List.map_congr_left has
      _ = as := List.map_id as
  rw [Assembly.start, hbefore, settle_inParagraph ms ns, htidied]
  rfl

theorem stop_paragraph :
    (inParagraph keeps ms ns t).stop paragraphName =
      inWrapper keeps (.element paragraphName []
        ((textPiece t).map (fun p => (p.settled keeps).node) ++ ns).reverse :: ms) := by
  have hclose : (inParagraph keeps ms ns t).stop paragraphName =
    (inParagraph keeps ms ns t).close := rfl
  rw [hclose, Assembly.close, settle_inParagraph ms ns]
  rfl

end

theorem fold_textPiece (keeps : Text → Bool) (ms ns : List Node) (t : Text) :
    ((textPiece t).flatMap Piece.tokens).foldl Assembly.step (inParagraph keeps ms ns []) =
      inParagraph keeps ms ns t := by
  cases t with
  | nil => rfl
  | cons c t => rfl

/-- The nodes of a tag and of the text in front of it are put into the paragraph. -/
theorem fold_tag {keeps : Text → Bool} {t label : Text} {as : List Attribute}
    (hp : (Piece.tag as label).Proper) (ms ns : List Node) :
    (Piece.tag as label).tokens.foldl Assembly.step (inParagraph keeps ms ns t) =
      inParagraph keeps ms
        (((Piece.tag as label).settled keeps).ordered.node ::
          ((textPiece t).map (fun p => (p.settled keeps).node) ++ ns)) [] := by
  have htidied : ∀ a ∈ ordered as, a.tidied spanName = a :=
    fun a ha => (hp.2.2 a (mem_ordered.1 ha)).2
  have htext : ∀ ns, (inTag keeps ms ns (ordered as) []).step (.text label) =
      inTag keeps ms ns (ordered as) label := fun ns => step_text rfl label
  rw [Piece.tokens, List.foldl_cons, step_startTag rfl, start_tag ms ns htidied, List.foldl_cons,
    htext, List.foldl_cons, step_endTag rfl, stop_tag ms _ hp.1, List.foldl_nil]
  rfl

/-- A paragraph is assembled from its tokens. The text in front of what is left of it may still
grow, since texts are joined. -/
theorem fold_line {keeps : Text → Bool} {l : Line} (hp : ∀ p ∈ l, p.Proper) (t : Text)
    (ms ns : List Node) :
    ((Line.joined (.text t :: l)).flatMap Piece.tokens ++ [Token.endTag paragraphName]).foldl
        Assembly.step (inParagraph keeps ms ns []) =
      inWrapper keeps (.element paragraphName [] (ns.reverse ++
        (Line.joined (.text t :: l)).map fun p => (p.settled keeps).ordered.node) :: ms) := by
  induction l generalizing t ns with
  | nil =>
    rw [Line.joined_text_nil, List.foldl_append, fold_textPiece]
    rw [List.foldl_cons, step_endTag rfl, stop_paragraph ms ns, List.foldl_nil]
    cases t with
    | nil => simp [textPiece]
    | cons c t => simp [textPiece, Piece.ordered, Piece.settled]
  | cons p l ih =>
    obtain ⟨hp, hl⟩ := List.forall_mem_cons.1 hp
    cases p with
    | text u =>
      rw [Line.joined_text_text]
      exact ih hl (t ++ u) ns
    | tag as label =>
      have htag := @fold_tag keeps t label as hp ms ns
      rw [Line.joined_text_tag, List.flatMap_append, List.flatMap_cons, List.append_assoc,
        List.append_assoc, List.foldl_append, fold_textPiece, List.foldl_append, htag]
      refine (ih hl [] _).trans ?_
      cases t with
      | nil => simp [textPiece, Line.joined]
      | cons c t => simp [textPiece, Line.joined, Piece.ordered, Piece.settled]

theorem start_paragraph (keeps : Text → Bool) (ms : List Node) :
    (inWrapper keeps ms).start paragraphName [] false = inParagraph keeps ms [] [] := by
  have hends : endsBefore paragraphName wrapperName = false := by decide +kernel
  have hbefore : (inWrapper keeps ms).closeBefore paragraphName = inWrapper keeps ms := by
    rw [Assembly.closeBefore, Assembly.openNames, inWrapper, List.map_cons,
      List.takeWhile_cons_of_neg (by simp [hends])]
    rfl
  rw [Assembly.start, hbefore]
  rfl

theorem fold_paragraph {keeps : Text → Bool} {l : Line} (hp : ∀ p ∈ l, p.Proper)
    (ms : List Node) :
    (lineTokens l).foldl Assembly.step (inWrapper keeps ms) =
      inWrapper keeps (readBackBy keeps l :: ms) := by
  rw [lineTokens, List.foldl_cons, step_startTag rfl, start_paragraph]
  refine (fold_line hp [] ms []).trans ?_
  rw [readBackBy, paragraph, List.map_map, List.map_map]
  rfl

theorem fold_paragraphs {keeps : Text → Bool} {d : List Line} (hp : ∀ l ∈ d, ∀ p ∈ l, p.Proper)
    (ms : List Node) :
    (d.flatMap lineTokens).foldl Assembly.step (inWrapper keeps ms) =
      inWrapper keeps ((d.map (readBackBy keeps)).reverse ++ ms) := by
  induction d generalizing ms with
  | nil => rfl
  | cons l d ih =>
    obtain ⟨hl, hd⟩ := List.forall_mem_cons.1 hp
    rw [List.flatMap_cons, List.foldl_append, fold_paragraph hl, ih hd]
    simp

/-- The nodes of the tokens of a document are its wrapper with the paragraphs in it. -/
theorem nodes_wrapped {keeps : Text → Bool} {d : List Line} (hp : ∀ l ∈ d, ∀ p ∈ l, p.Proper) :
    nodes keeps (.startTag wrapperName [] false :: (d.flatMap lineTokens ++ [.endTag wrapperName])) =
      [.element wrapperName [] (d.map (readBackBy keeps))] := by
  have hstart : ({ keeps } : Assembly).start wrapperName [] false = inWrapper keeps [] := rfl
  have hstop : ∀ ms, ((inWrapper keeps ms).stop wrapperName).closeAll.nodes.reverse =
      [.element wrapperName [] ms.reverse] := fun _ => rfl
  rw [nodes, List.foldl_cons, step_startTag rfl, hstart, List.foldl_append, fold_paragraphs hp,
    List.foldl_cons, step_endTag rfl, List.foldl_nil, hstop, List.append_nil, List.reverse_reverse]

end LiveText.Markup
