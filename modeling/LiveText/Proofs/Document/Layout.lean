import LiveText.Proofs.Document.Outline
import LiveText.Proofs.Identifier.Seams

/-!
# The identifiers of a document

The text of a document is its outline laid out, with a line feed for each break of a line and for each
edge of a block; a walk puts fewer line feeds and fewer blanks out, but never so few that identifiers
are found or lost by it (`identifiers_walkText`).

Where an outline is seamless, so that nothing in a line makes what is in front of it longer or is hidden
by it, the identifiers of the document are those of its items, each on its own
(`identifiers_laid`).

## What is here

* `laid` lays items out, `WalkStep.laid` the steps of a walk.
* `Alike`: texts that can stand for each other. `identifiers_take` is a step of the walk,
  `identifiers_foldl_take` the run.
* `alike_walkSteps`: a break at the end of a block may as well be left out, since the block ends there.
* `Seamless` and `identifiers_laid`.
-/

set_option autoImplicit false

namespace LiveText

open Text Markup

/-! ## Blanks -/

/-- The text is not empty, and there are only blanks in it. -/
def BlankRun (t : Text) : Prop := t ≠ [] ∧ allBlank t = true

theorem blankRun_feed : BlankRun ['\n'] := ⟨List.cons_ne_nil _ _, by decide⟩

theorem BlankRun.append {t u : Text} (ht : BlankRun t) (hu : allBlank u = true) :
    BlankRun (t ++ u) := by
  refine ⟨List.append_ne_nil_of_left_ne_nil ht.1 u, ?_⟩
  rw [allBlank, List.all_append, Bool.and_eq_true]
  exact ⟨ht.2, hu⟩

theorem BlankRun.behind {t u : Text} (hu : BlankRun u) (ht : allBlank t = true) :
    BlankRun (t ++ u) := by
  refine ⟨List.append_ne_nil_of_right_ne_nil t hu.1, ?_⟩
  rw [allBlank, List.all_append, Bool.and_eq_true]
  exact ⟨ht, hu.2⟩

theorem identifiers_nil : identifiers [] = [] :=
  (identifiers_eq_after []).trans (identifiersAfter_nil none)

/-- Blanks in front of a text make no difference. -/
theorem identifiers_blank_append {b : Text} (hb : allBlank b = true) (t : Text) :
    identifiers (b ++ t) = identifiers t := by
  induction b with
  | nil => rfl
  | cons c b ih =>
    rw [allBlank, List.all_cons, Bool.and_eq_true] at hb
    have hcut := identifiers_append_blank hb.1 [] (b ++ t)
    rw [identifiers_nil, List.nil_append, List.nil_append, ih hb.2] at hcut
    exact hcut

/-- **Blanks keep what is on both sides of them apart.** -/
theorem BlankRun.identifiers {b : Text} (h : BlankRun b) (t u : Text) :
    identifiers (t ++ b ++ u) = LiveText.identifiers t ++ LiveText.identifiers u := by
  obtain ⟨c, b, rfl⟩ := List.exists_cons_of_ne_nil h.1
  have hblank := h.2
  rw [allBlank, List.all_cons, Bool.and_eq_true] at hblank
  rw [List.append_assoc, List.cons_append, identifiers_append_blank hblank.1,
    identifiers_blank_append hblank.2]

/-- One text can stand for the other one: whatever is around them, the same identifiers are found. -/
def Alike (t u : Text) : Prop :=
  ∀ p v, LiveText.identifiers (p ++ t ++ v) = LiveText.identifiers (p ++ u ++ v)

theorem Alike.refl (t : Text) : Alike t t := fun _ _ => rfl

theorem Alike.trans {t u v : Text} (h : Alike t u) (h' : Alike u v) : Alike t v :=
  fun p w => (h p w).trans (h' p w)

theorem Alike.append_left {t u : Text} (h : Alike t u) (v : Text) : Alike (v ++ t) (v ++ u) := by
  intro p w
  rw [← List.append_assoc, ← List.append_assoc]
  exact h (p ++ v) w

theorem Alike.append_right {t u : Text} (h : Alike t u) (v : Text) : Alike (t ++ v) (u ++ v) := by
  intro p w
  have hcut := h p (v ++ w)
  simpa only [List.append_assoc] using hcut

theorem BlankRun.alike {t u : Text} (ht : BlankRun t) (hu : BlankRun u) : Alike t u :=
  fun p v => (ht.identifiers p v).trans (hu.identifiers p v).symm

/-- Blanks behind a line feed make no difference. -/
theorem identifiers_feed {b : Text} (hb : allBlank b = true) (t v : Text) :
    identifiers (t ++ ['\n'] ++ v) = identifiers (t ++ ['\n'] ++ b ++ v) := by
  rw [List.append_assoc t ['\n'] b]
  exact blankRun_feed.alike (blankRun_feed.append hb) t v

/-! ## Laying out -/

/-- An item laid out, when this is the label of a tag. -/
def Item.laid (label : Element → Text) : Item → Text
  | text t => t
  | tag e => label e
  | lineBreak => ['\n']
  | edge => ['\n']

/-- Items laid out, one after the other. -/
def laid (label : Element → Text) (items : List Item) : Text := items.flatMap (Item.laid label)

/-- A step laid out. -/
def WalkStep.laid (label : Element → Text) : WalkStep → Text
  | text t => t
  | tag e => label e
  | lineBreak atEnd => if atEnd then [] else ['\n']
  | blockStart => ['\n']
  | blockEnd => ['\n']

section
variable (label : Element → Text)

theorem laid_append (xs ys : List Item) : laid label (xs ++ ys) = laid label xs ++ laid label ys :=
  List.flatMap_append

theorem laid_cons (x : Item) (xs : List Item) :
    laid label (x :: xs) = x.laid label ++ laid label xs :=
  List.flatMap_cons

/-! ## The walk -/

namespace Walk

theorem afterBlock_breakLine (w : Walk) : w.breakLine.afterBlock = false := by
  rw [breakLine]
  split
  · rfl
  · next h => exact Bool.eq_false_iff.2 h

theorem breakLine_of_not {w : Walk} (h : w.afterBlock = false) : w.breakLine = w := by
  rw [breakLine, h]
  rfl

theorem text_breakLine_put (w : Walk) (t : Text) :
    (w.breakLine.put t).breakLine.text = w.breakLine.text ++ t := by
  have hopen : (w.breakLine.put t).afterBlock = false := w.afterBlock_breakLine
  rw [breakLine_of_not hopen, text_put]

theorem text_breakLine_of {w : Walk} (h : w.afterBlock = true) :
    w.breakLine.text = w.text ++ ['\n'] := by
  rw [breakLine, if_pos h]
  exact text_put ['\n'] w

/-- Where a block starts, there is a line feed, or nothing but blanks is in front of it. -/
theorem identifiers_startBlock {w : Walk} (hw : w.Placed) (v : Text) :
    identifiers (w.startBlock.breakLine.text ++ v) = identifiers (w.breakLine.text ++ ['\n'] ++ v) := by
  rw [startBlock]
  split
  · next h =>
    rw [breakLine_of_not w.afterBlock_breakLine, text_breakLine_of h]
    exact identifiers_feed blankRun_feed.2 w.text v
  · next h =>
    rw [Bool.not_eq_true] at h
    rw [breakLine_of_not h]
    split
    · have hopen : (w.put ['\n']).afterBlock = false := h
      rw [breakLine_of_not hopen, text_put]
    · next hstart =>
      rw [breakLine_of_not h]
      by_cases hfeed : w.atLineStart = true
      · obtain ⟨u, hu⟩ := hw hfeed
        rw [hu]
        exact identifiers_feed blankRun_feed.2 u v
      · have hblank : Text.allBlank w.text = true := by
          rw [← allBlank_eq]
          simpa [hfeed] using hstart
        rw [identifiers_blank_append hblank, List.append_assoc, identifiers_blank_append hblank]
        exact (identifiers_blank_append (b := ['\n']) (by decide) v).symm

/-- **A step of the walk** puts out what it is laid out as, but for blanks. -/
theorem identifiers_take {w : Walk} (hw : w.Placed) (s : WalkStep) (v : Text) :
    identifiers ((w.take label s).breakLine.text ++ v) =
      identifiers (w.breakLine.text ++ s.laid label ++ v) := by
  cases s with
  | text t =>
    rw [take, WalkStep.laid, putText]
    split
    · next h =>
      rw [Bool.and_eq_true] at h
      rw [text_breakLine_of h.1]
      exact identifiers_feed h.2 w.text v
    · rw [text_breakLine_put]
  | tag e => rw [take, WalkStep.laid, text_breakLine_put]
  | lineBreak atEnd =>
    rw [take, WalkStep.laid]
    split
    · rw [breakLine_of_not w.afterBlock_breakLine, List.append_nil]
    · rw [text_breakLine_put]
  | blockStart => exact identifiers_startBlock hw v
  | blockEnd =>
    have hend : (w.take label .blockEnd).breakLine.text = w.text ++ ['\n'] := text_breakLine_of rfl
    rw [hend, WalkStep.laid]
    cases h : w.afterBlock with
    | false => rw [breakLine_of_not h]
    | true =>
      rw [text_breakLine_of h]
      exact identifiers_feed blankRun_feed.2 w.text v

theorem identifiers_foldl_take {w : Walk} (hw : w.Placed) (ss : List WalkStep) (v : Text) :
    identifiers ((ss.foldl (take label) w).breakLine.text ++ v) =
      identifiers (w.breakLine.text ++ ss.flatMap (WalkStep.laid label) ++ v) := by
  induction ss generalizing w with
  | nil => rw [List.flatMap_nil, List.append_nil]; rfl
  | cons s ss ih =>
    rw [List.foldl_cons, ih (hw.take label s), List.append_assoc, identifiers_take label hw,
      List.flatMap_cons]
    simp only [List.append_assoc]

end Walk

/-! ## The end of a block -/

/-- A text or a comment that a line break may be followed by at the end of a block says only blanks. -/
theorem allBlank_laid_outline {ns : List Node} (h : ns.all Node.isBlankText = true) :
    allBlank (laid label (outline ns)) = true := by
  induction ns with
  | nil => rfl
  | cons n ns ih =>
    rw [List.all_cons, Bool.and_eq_true] at h
    have hn : allBlank (laid label n.outline) = true := by
      cases n with
      | text region t => exact (congrArg allBlank (List.append_nil t)).trans h.1
      | comment t => rfl
      | doctype t => rfl
      | element name as children => exact Bool.noConfusion h.1
    rw [outline, laid_append, allBlank, List.all_append, Bool.and_eq_true]
    exact ⟨hn, ih h.2⟩

mutual

/-- The induction behind `alike_walkSteps`, on a node: its steps can stand for its outline, provided
that nothing but blanks is behind a break which is left out. -/
theorem alike_walkSteps_node (atEnd : Bool) (b : Text) (hb : atEnd = true → BlankRun b) :
    ∀ n : Node, VoidsEmpty n →
      Alike ((n.walkSteps atEnd).flatMap (WalkStep.laid label) ++ b) (laid label n.outline ++ b)
  | .text _ t, _ => .refl _
  | .comment _, _ => .refl _
  | .doctype _, _ => .refl _
  | .element name as children, .element hvoid hchildren => by
    rw [Node.walkSteps, Node.outline]
    split
    · exact .refl _
    · split
      · exact .refl _
      · split
        · next hbr =>
          have hempty : children = [] := hvoid (hbr ▸ by decide +kernel)
          rw [hempty]
          cases atEnd with
          | false => exact .refl _
          | true => exact (hb rfl).alike (blankRun_feed.append (hb rfl).2)
        · split
          · -- the line feed of the edge is behind the break
            have hblock := alike_walkSteps true ['\n'] (fun _ => blankRun_feed) children hchildren
            have hwhole := (hblock.append_left ['\n']).append_right b
            simpa only [laid, Item.laid, WalkStep.laid, List.flatMap_append, List.flatMap_cons,
              List.flatMap_nil, List.append_assoc, List.cons_append, List.nil_append] using hwhole
          · exact alike_walkSteps false b (fun h => Bool.noConfusion h) children hchildren

/-- **The steps of a walk can stand for the outline**, if only blanks are behind a block. -/
theorem alike_walkSteps (inBlock : Bool) (b : Text) (hb : inBlock = true → BlankRun b) :
    ∀ ns : List Node, (∀ n ∈ ns, VoidsEmpty n) →
      Alike ((walkSteps inBlock ns).flatMap (WalkStep.laid label) ++ b)
        (laid label (outline ns) ++ b)
  | [], _ => .refl _
  | n :: ns, h => by
    obtain ⟨hn, hns⟩ := List.forall_mem_cons.1 h
    have hbehind : (inBlock && ns.all Node.isBlankText) = true →
        BlankRun (laid label (outline ns) ++ b) := by
      rw [Bool.and_eq_true]
      exact fun hend => (hb hend.1).behind (allBlank_laid_outline label hend.2)
    have hnode := alike_walkSteps_node _ _ hbehind n hn
    have hrest := alike_walkSteps inBlock b hb ns hns
    rw [walkSteps, outline, laid_append, List.flatMap_append, List.append_assoc, List.append_assoc]
    exact (hrest.append_left _).trans hnode

end

/-- **The text of a document** has the identifiers of its outline laid out. -/
theorem identifiers_walkText {ns : List Node} (hns : ∀ n ∈ ns, VoidsEmpty n) :
    identifiers (walkText label ns) = identifiers (laid label (outline ns)) := by
  let w : Walk := (walkSteps false ns).foldl (Walk.take label) {}
  have hplaced : ({} : Walk).Placed := fun h => Bool.noConfusion h
  have hclosed : identifiers (w.breakLine.text ++ []) = identifiers w.text := by
    rw [List.append_nil, Walk.breakLine]
    split
    · exact (congrArg identifiers (Walk.text_put ['\n'] w)).trans
        ((identifiers_append_blank (by decide) w.text []).trans
          ((congrArg (identifiers w.text ++ ·) identifiers_nil).trans (List.append_nil _)))
    · rfl
  calc identifiers (walkText label ns)
      = identifiers (w.breakLine.text ++ []) := by
        rw [hclosed, walkText, walkAll_eq_foldl]
    _ = identifiers ((walkSteps false ns).flatMap (WalkStep.laid label) ++ []) :=
        Walk.identifiers_foldl_take label hplaced _ []
    _ = identifiers (laid label (outline ns)) := by
        have halike := alike_walkSteps label false [] (fun h => Bool.noConfusion h) ns hns [] []
        simpa only [List.append_nil, List.nil_append] using halike

/-! ## Seamless outlines -/

/-- What stands in the line in front of the next item, when this is in front of an item. -/
def Item.lineAfter (line : Text) : Item → Text
  | text t => line ++ t
  | tag e => line ++ label e
  | lineBreak => []
  | edge => []

/-- In no line does an item make what is in front of it longer, or is it hidden by it; this stands in
the line in front of the first item. -/
def Seamless (line : Text) : List Item → Prop
  | [] => True
  | x :: xs => Seam line (x.said label) ∧ Seamless (x.lineAfter label line) xs

/-- What an item says in a line that has begun, when `is` are the identifiers behind it. -/
theorem identifiers_line_append {line t rest : Text} {is : List Identifier} (hseam : Seam line t)
    (h : identifiers (line ++ t ++ rest) = identifiers (line ++ t) ++ is) :
    identifiers (line ++ (t ++ rest)) = identifiers line ++ (identifiers t ++ is) := by
  rw [← List.append_assoc, h, identifiers_append_seam hseam, List.append_assoc]

/-- The end of a line, when `is` are the identifiers behind it. -/
theorem identifiers_line_feed {line rest : Text} {is : List Identifier}
    (h : identifiers ([] ++ rest) = identifiers [] ++ is) :
    identifiers (line ++ '\n' :: rest) = identifiers line ++ (identifiers [] ++ is) := by
  rw [identifiers_append_blank (by decide), ← h, List.nil_append]

/-- The induction behind `identifiers_laid`, on the items of a line that has begun. -/
theorem identifiers_line_laid {line : Text} {items : List Item} (h : Seamless label line items) :
    identifiers (line ++ laid label items) =
      identifiers line ++ items.flatMap fun x => identifiers (x.said label) := by
  induction items generalizing line with
  | nil => rw [laid, List.flatMap_nil, List.flatMap_nil, List.append_nil, List.append_nil]
  | cons x xs ih =>
    obtain ⟨hseam, hrest⟩ := h
    rw [laid_cons, List.flatMap_cons]
    cases x with
    | text t => exact identifiers_line_append hseam (ih hrest)
    | tag e => exact identifiers_line_append hseam (ih hrest)
    | lineBreak => exact identifiers_line_feed (ih hrest)
    | edge => exact identifiers_line_feed (ih hrest)

/-- **The identifiers of a seamless outline** are those of its items, each on its own. -/
theorem identifiers_laid {items : List Item} (h : Seamless label [] items) :
    identifiers (laid label items) = items.flatMap fun x => identifiers (x.said label) := by
  have hline := identifiers_line_laid label h
  rwa [identifiers_nil, List.nil_append, List.nil_append] at hline

end

end LiveText
