import Mathlib.Data.List.Basic
import LiveText.Document.Walk
import LiveText.Proofs.Markup.Voids

/-!
# What a walk over a document keeps

A walk puts blanks out or leaves them out, depending on the blocks around them. Everything else is
kept: the `outline` of a fragment lists the texts and the variable tags that count for the text of a
document, and the places where a line breaks or a block starts or ends, and the walk puts out what they
say, in their order, with a line feed wherever a block starts or ends between two of them
(**`walkText_readWith_outline`**).

## What is here

* `outline` and `said` tell what is to be put out without the walk.
* `walkSteps` takes a walk apart into steps, one after the other, so that it is a fold over them
  (`walkAll_eq_foldl`). The steps are those of the outline, since a line break holds nothing in a
  fragment that was read (`map_item_walkSteps`).
* `visible_foldl_take` is the run for what is put out, `Walk.Parted.foldl_take` the one for the line
  feeds.
-/

set_option autoImplicit false

namespace LiveText

open Text Markup

/-! ## What counts for the text of a document -/

/-- The text without the blanks in it. -/
def Text.visible (t : Text) : Text := t.filter fun c => !isBlank c

/-- What counts for the text of a document. -/
inductive Item
  | text (t : Text)
  | tag (e : Element)
  | lineBreak
  /-- a block starts or ends -/
  | edge
  deriving DecidableEq

/-- What an item says, when this is the label of a tag. -/
def Item.said (label : Element → Text) : Item → Text
  | text t => t
  | tag e => label e
  | lineBreak => []
  | edge => []

/-- What items say, one after the other. -/
def said (label : Element → Text) (items : List Item) : Text := items.flatMap (Item.said label)

mutual

/-- What counts in a node for the text of a document. -/
def Markup.Node.outline : Node → List Item
  | .text _ t => [.text t]
  | .comment _ => []
  | .doctype _ => []
  | .element name as children =>
    if isHidden name then []
    else if marksVariable as then [.tag ⟨name, as, children⟩]
    else if name = "br".toList then .lineBreak :: outline children
    else if isBlock name then .edge :: outline children ++ [.edge]
    else outline children

/-- What counts in nodes for the text of a document. -/
def outline : List Node → List Item
  | [] => []
  | n :: ns => n.outline ++ outline ns

end

@[simp]
theorem visible_append (t u : Text) : (t ++ u).visible = t.visible ++ u.visible :=
  List.filter_append t u

theorem visible_eq_nil_iff {t : Text} : t.visible = [] ↔ allBlank t = true := by
  rw [Text.visible, List.filter_eq_nil_iff, Text.allBlank, List.all_eq_true]
  simp

theorem said_append (label : Element → Text) (xs ys : List Item) :
    said label (xs ++ ys) = said label xs ++ said label ys :=
  List.flatMap_append

theorem said_cons (label : Element → Text) (x : Item) (xs : List Item) :
    said label (x :: xs) = x.said label ++ said label xs :=
  List.flatMap_cons

theorem visible_said_eq_nil (label : Element → Text) {xs : List Item}
    (h : ∀ x ∈ xs, (x.said label).visible = []) : (said label xs).visible = [] := by
  induction xs with
  | nil => rfl
  | cons x xs ih =>
    obtain ⟨hx, hxs⟩ := List.forall_mem_cons.1 h
    rw [said_cons, visible_append, hx, ih hxs, List.append_nil]

/-! ## The steps of a walk -/

/-- A step of a walk. -/
inductive WalkStep
  | text (t : Text)
  | tag (e : Element)
  /-- a line break; `atEnd` says that nothing follows it in its block -/
  | lineBreak (atEnd : Bool)
  | blockStart
  | blockEnd

namespace WalkStep

/-- What a step says. -/
def said (label : Element → Text) : WalkStep → Text
  | text t => t
  | tag e => label e
  | lineBreak _ => []
  | blockStart => []
  | blockEnd => []

/-- The item that a step is for. -/
def item : WalkStep → Item
  | text t => .text t
  | tag e => .tag e
  | lineBreak _ => .lineBreak
  | blockStart => .edge
  | blockEnd => .edge

theorem said_item (label : Element → Text) (s : WalkStep) : s.item.said label = s.said label := by
  cases s <;> rfl

end WalkStep

/-- Takes a step. -/
def Walk.take (label : Element → Text) (w : Walk) : WalkStep → Walk
  | .text t => w.putText t
  | .tag e => w.breakLine.put (label e)
  | .lineBreak atEnd => if atEnd then w.breakLine else w.breakLine.put ['\n']
  | .blockStart => w.startBlock
  | .blockEnd => { w with afterBlock := true }

mutual

/-- The steps of a walk over a node. -/
def Markup.Node.walkSteps (atEnd : Bool) : Node → List WalkStep
  | .text _ t => [.text t]
  | .comment _ => []
  | .doctype _ => []
  | .element name as children =>
    if isHidden name then []
    else if marksVariable as then [.tag ⟨name, as, children⟩]
    else if name = "br".toList then [.lineBreak atEnd]
    else if isBlock name then .blockStart :: walkSteps true children ++ [.blockEnd]
    else walkSteps false children

/-- The steps of a walk over nodes. -/
def walkSteps (inBlock : Bool) : List Node → List WalkStep
  | [] => []
  | n :: ns => n.walkSteps (inBlock && ns.all Node.isBlankText) ++ walkSteps inBlock ns

end

mutual

theorem Markup.Node.walk_eq_foldl (label : Element → Text) (atEnd : Bool) :
    ∀ (n : Node) (w : Walk), n.walk label atEnd w = (n.walkSteps atEnd).foldl (Walk.take label) w
  | .text _ _, _ => rfl
  | .comment _, _ => rfl
  | .doctype _, _ => rfl
  | .element name as children, w => by
    rw [Node.walk, Node.walkSteps]
    split
    · rfl
    · split
      · rfl
      · split
        · rfl
        · split
          · rw [List.cons_append, List.foldl_cons, List.foldl_append,
              walkAll_eq_foldl label true children]
            rfl
          · exact walkAll_eq_foldl label false children w

/-- **A walk is made of its steps.** -/
theorem walkAll_eq_foldl (label : Element → Text) (inBlock : Bool) :
    ∀ (ns : List Node) (w : Walk),
      walkAll label inBlock ns w = (walkSteps inBlock ns).foldl (Walk.take label) w
  | [], _ => rfl
  | n :: ns, w => by
    rw [walkAll, walkSteps, List.foldl_append, n.walk_eq_foldl label _ w,
      walkAll_eq_foldl label inBlock ns]

end

mutual

theorem Markup.Node.map_item_walkSteps (atEnd : Bool) :
    ∀ n : Node, VoidsEmpty n → (n.walkSteps atEnd).map WalkStep.item = n.outline
  | .text _ _, _ => rfl
  | .comment _, _ => rfl
  | .doctype _, _ => rfl
  | .element name as children, .element hvoid hchildren => by
    rw [Node.walkSteps, Node.outline]
    split
    · rfl
    · split
      · rfl
      · split
        · next hbr =>
          -- a line break holds nothing that would count
          have hempty : children = [] := hvoid (hbr ▸ by decide +kernel)
          rw [hempty]
          rfl
        · split
          · rw [List.cons_append, List.map_cons, List.map_append,
              map_item_walkSteps true children hchildren]
            rfl
          · exact map_item_walkSteps false children hchildren

/-- The steps of a walk are for the items of the outline. -/
theorem map_item_walkSteps (inBlock : Bool) :
    ∀ ns : List Node, (∀ n ∈ ns, VoidsEmpty n) →
      (walkSteps inBlock ns).map WalkStep.item = outline ns
  | [], _ => rfl
  | n :: ns, h => by
    obtain ⟨hn, hns⟩ := List.forall_mem_cons.1 h
    rw [walkSteps, outline, List.map_append, n.map_item_walkSteps _ hn,
      map_item_walkSteps inBlock ns hns]

end

section
variable (label : Element → Text)

theorem flatMap_said_eq (ss : List WalkStep) :
    ss.flatMap (WalkStep.said label) = said label (ss.map WalkStep.item) := by
  rw [said, List.flatMap_map]
  exact List.flatMap_congr fun s _ => (s.said_item label).symm

/-- Where the items of steps are split, the steps can be. -/
theorem exists_step {ss : List WalkStep} {xs ys : List Item} {x : Item}
    (h : ss.map WalkStep.item = xs ++ x :: ys) :
    ∃ us s vs, ss = us ++ s :: vs ∧ us.map WalkStep.item = xs ∧ s.item = x ∧
      vs.map WalkStep.item = ys := by
  obtain ⟨us, rest, rfl, hus, hrest⟩ := List.map_eq_append_iff.1 h
  obtain ⟨s, vs, rfl, hs, hvs⟩ := List.map_eq_cons_iff.1 hrest
  exact ⟨us, s, vs, rfl, hus, hs, hvs⟩

/-! ## What is put out -/

namespace Walk

theorem visible_breakLine (w : Walk) : w.breakLine.text.visible = w.text.visible := by
  rw [breakLine]
  split
  · have hfeed : Text.visible ['\n'] = [] := by decide
    change (w.put ['\n']).text.visible = _
    rw [text_put, visible_append, hfeed, List.append_nil]
  · rfl

theorem visible_startBlock (w : Walk) : w.startBlock.text.visible = w.text.visible := by
  rw [startBlock]
  split
  · exact w.visible_breakLine
  · split
    · have hfeed : Text.visible ['\n'] = [] := by decide
      rw [text_put, visible_append, hfeed, List.append_nil]
    · rfl

/-- A step puts out what it says, and blanks. -/
theorem visible_take (w : Walk) (s : WalkStep) :
    (w.take label s).text.visible = w.text.visible ++ (s.said label).visible := by
  cases s with
  | text t =>
    rw [take, WalkStep.said, putText]
    split
    · next h =>
      rw [Bool.and_eq_true] at h
      rw [visible_eq_nil_iff.2 h.2, List.append_nil]
    · rw [text_put, visible_append, visible_breakLine]
  | tag e => rw [take, WalkStep.said, text_put, visible_append, visible_breakLine]
  | lineBreak atEnd =>
    have hfeed : Text.visible ['\n'] = [] := by decide
    rw [take, WalkStep.said]
    split
    · exact w.visible_breakLine.trans (List.append_nil _).symm
    · rw [text_put, visible_append, visible_breakLine, hfeed]
      rfl
  | blockStart => exact w.visible_startBlock.trans (List.append_nil _).symm
  | blockEnd => exact (List.append_nil _).symm

/-- **What a run puts out** is what its steps say, and blanks. -/
theorem visible_foldl_take (w : Walk) (ss : List WalkStep) :
    (ss.foldl (take label) w).text.visible =
      w.text.visible ++ Text.visible (ss.flatMap (WalkStep.said label)) := by
  induction ss generalizing w with
  | nil => exact (List.append_nil _).symm
  | cons s ss ih =>
    rw [List.foldl_cons, ih, visible_take, List.flatMap_cons, visible_append, List.append_assoc]

theorem prefix_breakLine (w : Walk) : w.text <+: w.breakLine.text := by
  rw [breakLine]
  split
  · exact ⟨['\n'], (text_put ['\n'] w).symm⟩
  · exact List.prefix_rfl

theorem prefix_put (w : Walk) (t : Text) : w.text <+: (w.put t).text := ⟨t, (text_put t w).symm⟩

/-- A step takes nothing back. -/
theorem prefix_take (w : Walk) (s : WalkStep) : w.text <+: (w.take label s).text := by
  have hput : ∀ t, w.text <+: (w.breakLine.put t).text := fun t =>
    w.prefix_breakLine.trans (w.breakLine.prefix_put t)
  cases s with
  | text t =>
    rw [take, putText]
    split
    · exact List.prefix_rfl
    · exact hput t
  | tag e => exact hput _
  | lineBreak atEnd =>
    rw [take]
    split
    · exact w.prefix_breakLine
    · exact hput _
  | blockStart =>
    rw [take, startBlock]
    split
    · exact w.prefix_breakLine
    · split
      · exact w.prefix_put _
      · exact List.prefix_rfl
  | blockEnd => exact List.prefix_rfl

theorem prefix_foldl_take (w : Walk) (ss : List WalkStep) :
    w.text <+: (ss.foldl (take label) w).text := by
  induction ss generalizing w with
  | nil => exact List.prefix_rfl
  | cons s ss ih => exact (w.prefix_take label s).trans (ih _)

/-! ## Line feeds between blocks -/

/-- The walk is at the start of a line if it says so. -/
def Placed (w : Walk) : Prop := w.atLineStart = true → ∃ u, w.text = u ++ ['\n']

/-- What is put out next is on another line than what a reader sees last so far. -/
def Parted (w : Walk) : Prop :=
  w.afterBlock = true ∨ ∃ u s, w.text = u ++ '\n' :: s ∧ Text.visible s = []

theorem placed_put (w : Walk) (t : Text) : (w.put t).Placed := by
  intro h
  have hlast : t.getLast? = some '\n' := eq_of_beq h
  obtain ⟨u, rfl⟩ := List.getLast?_eq_some_iff.1 hlast
  exact ⟨w.text ++ u, by rw [text_put, List.append_assoc]⟩

theorem Placed.breakLine {w : Walk} (h : w.Placed) : w.breakLine.Placed := by
  rw [Walk.breakLine]
  split
  · exact w.placed_put ['\n']
  · exact h

theorem Placed.take {w : Walk} (h : w.Placed) (s : WalkStep) : (w.take label s).Placed := by
  cases s with
  | text t =>
    rw [Walk.take, putText]
    split
    · exact h
    · exact placed_put _ _
  | tag e => exact placed_put _ _
  | lineBreak atEnd =>
    rw [Walk.take]
    split
    · exact h.breakLine
    · exact placed_put _ _
  | blockStart =>
    rw [Walk.take, startBlock]
    split
    · exact h.breakLine
    · split
      · exact placed_put _ _
      · exact h
  | blockEnd => exact h

theorem Placed.foldl_take {w : Walk} (h : w.Placed) (ss : List WalkStep) :
    (ss.foldl (Walk.take label) w).Placed := by
  induction ss generalizing w with
  | nil => exact h
  | cons s ss ih => exact ih (h.take label s)

/-- Once the line of a block is ended, there is a line feed behind what a reader sees last. -/
theorem Parted.exists_breakLine {w : Walk} (h : w.Parted) :
    ∃ u s, w.breakLine.text = u ++ '\n' :: s ∧ Text.visible s = [] := by
  rw [Walk.breakLine]
  split
  · exact ⟨w.text, [], text_put ['\n'] w, rfl⟩
  · next hopen => exact h.resolve_left hopen

theorem Parted.put_breakLine {w : Walk} (h : w.Parted) {t : Text} (ht : t.visible = []) :
    (w.breakLine.put t).Parted := by
  obtain ⟨u, s, hu, hs⟩ := h.exists_breakLine
  refine .inr ⟨u, s ++ t, ?_, ?_⟩
  · rw [text_put, hu, List.append_assoc, List.cons_append]
  · rw [visible_append, hs, ht, List.append_nil]

/-- A step that a reader sees nothing of takes no line feed away. -/
theorem Parted.take {w : Walk} (h : w.Parted) {s : WalkStep} (hs : (s.said label).visible = []) :
    (w.take label s).Parted := by
  cases s with
  | text t =>
    rw [Walk.take, putText]
    split
    · exact h
    · exact h.put_breakLine hs
  | tag e => exact h.put_breakLine hs
  | lineBreak atEnd =>
    rw [Walk.take]
    split
    · exact .inr h.exists_breakLine
    · exact h.put_breakLine (by decide)
  | blockStart =>
    rw [Walk.take, startBlock]
    split
    · exact .inr h.exists_breakLine
    · next hopen =>
      obtain ⟨u, s, hu, hs⟩ := h.resolve_left hopen
      split
      · exact .inr ⟨w.text, [], text_put ['\n'] w, rfl⟩
      · exact .inr ⟨u, s, hu, hs⟩
  | blockEnd => exact .inl rfl

theorem Parted.foldl_take {w : Walk} (h : w.Parted) {ss : List WalkStep}
    (hss : ∀ s ∈ ss, (s.said label).visible = []) : (ss.foldl (Walk.take label) w).Parted := by
  induction ss generalizing w with
  | nil => exact h
  | cons s ss ih =>
    obtain ⟨hs, hss⟩ := List.forall_mem_cons.1 hss
    exact ih (h.take label hs) hss

/-- Where a block starts or ends, what comes next is on another line. -/
theorem parted_take_edge {w : Walk} (hw : w.Placed) (hseen : w.text.visible ≠ []) {s : WalkStep}
    (hs : s.item = .edge) : (w.take label s).Parted := by
  have hblank : ¬w.allBlank = true := by rwa [allBlank_eq, ← visible_eq_nil_iff]
  cases s with
  | text t => cases hs
  | tag e => cases hs
  | lineBreak atEnd => cases hs
  | blockEnd => exact .inl rfl
  | blockStart =>
    rw [take, startBlock]
    split
    · next hopen => exact .inr (Parted.exists_breakLine (.inl hopen))
    · split
      · exact .inr ⟨w.text, [], text_put ['\n'] w, rfl⟩
      · next hstart =>
        have hfeed : w.atLineStart = true := by simpa [hblank] using hstart
        obtain ⟨u, hu⟩ := hw hfeed
        exact .inr ⟨u, [], hu, rfl⟩

/-- **Across an edge the line changes**: where a block starts or ends among steps that a reader sees
nothing of, what comes next is on another line. -/
theorem parted_foldl_take {w : Walk} (hw : w.Placed) (hseen : w.text.visible ≠ [])
    {ss : List WalkStep} (hss : ∀ s ∈ ss, (s.said label).visible = [])
    (hedge : .edge ∈ ss.map WalkStep.item) : (ss.foldl (take label) w).Parted := by
  obtain ⟨s, hs, hitem⟩ := List.mem_map.1 hedge
  obtain ⟨us, vs, rfl⟩ := List.append_of_mem hs
  have hus : ((us.foldl (take label) w).text).visible ≠ [] := by
    rw [visible_foldl_take]
    exact fun h => hseen (List.append_eq_nil_iff.1 h).1
  rw [List.foldl_append, List.foldl_cons]
  refine (parted_take_edge label (hw.foldl_take label us) hus hitem).foldl_take label fun t ht => ?_
  exact hss t (List.mem_append_right us (List.mem_cons_of_mem s ht))

/-- What a reader sees next has a line feed in front of it. -/
theorem Parted.exists_take {w : Walk} (h : w.Parted) {s : WalkStep}
    (hs : (s.said label).visible ≠ []) :
    ∃ u v, (w.take label s).text = u ++ '\n' :: v ∧ u.visible = w.text.visible := by
  have hput : ∀ t, ∃ u v, (w.breakLine.put t).text = u ++ '\n' :: v ∧ u.visible = w.text.visible := by
    intro t
    obtain ⟨u, v, hu, hv⟩ := h.exists_breakLine
    have hfeed : Text.visible ('\n' :: v) = [] := hv
    refine ⟨u, v ++ t, by rw [text_put, hu, List.append_assoc, List.cons_append], ?_⟩
    rw [← w.visible_breakLine, hu, visible_append, hfeed, List.append_nil]
  cases s with
  | text t =>
    have hopen : ¬(w.afterBlock && Text.allBlank t) = true := fun ht =>
      hs (visible_eq_nil_iff.2 (Bool.and_eq_true_iff.1 ht).2)
    rw [Walk.take, putText, if_neg hopen]
    exact hput t
  | tag e => exact hput _
  | lineBreak atEnd => exact absurd rfl hs
  | blockStart => exact absurd rfl hs
  | blockEnd => exact absurd rfl hs

/-- **Two steps that a reader sees are on two lines** if a block starts or ends between them. -/
theorem exists_feed_foldl_take {w : Walk} (hw : w.Placed) (hseen : w.text.visible ≠ [])
    {ss : List WalkStep} {s : WalkStep} (hedge : .edge ∈ ss.map WalkStep.item)
    (hss : ∀ x ∈ ss.map WalkStep.item, (x.said label).visible = [])
    (hs : (s.said label).visible ≠ []) (rest : List WalkStep) :
    ∃ u v, ((ss ++ s :: rest).foldl (take label) w).text = u ++ '\n' :: v ∧
      u.visible = w.text.visible := by
  have hblank : ∀ s ∈ ss, (s.said label).visible = [] := fun s hs =>
    s.said_item label ▸ hss s.item (List.mem_map_of_mem hs)
  have hparted := parted_foldl_take label hw hseen hblank hedge
  obtain ⟨u, v, huv, hu⟩ := hparted.exists_take label hs
  obtain ⟨z, hz⟩ := ((ss.foldl (take label) w).take label s).prefix_foldl_take label rest
  refine ⟨u, v ++ z, ?_, ?_⟩
  · rw [List.foldl_append, List.foldl_cons, ← hz, huv, List.append_assoc, List.cons_append]
  · rw [hu, visible_foldl_take, flatMap_said_eq, visible_said_eq_nil label hss, List.append_nil]

end Walk

/-! ## Fragments -/

section
variable {ns : List Node} (hns : ∀ n ∈ ns, VoidsEmpty n)
include hns

/-- **A walk loses nothing** but blanks. -/
theorem visible_walkText : (walkText label ns).visible = (said label (outline ns)).visible := by
  rw [walkText, walkAll_eq_foldl, Walk.visible_foldl_take, flatMap_said_eq,
    map_item_walkSteps false ns hns]
  rfl

/-- **A walk keeps blocks apart**: where a block starts or ends between two items that a reader sees,
and nothing else that a reader sees is between them, they are on two lines. -/
theorem exists_feed_walkText {pre mid post : List Item} {a b : Item}
    (houtline : outline ns = pre ++ a :: mid ++ b :: post) (hedge : .edge ∈ mid)
    (ha : (a.said label).visible ≠ []) (hb : (b.said label).visible ≠ [])
    (hmid : ∀ x ∈ mid, (x.said label).visible = []) :
    ∃ u v, walkText label ns = u ++ '\n' :: v ∧
      u.visible = (said label (pre ++ [a])).visible ∧
      Text.visible v = (said label (b :: post)).visible := by
  have hitems := map_item_walkSteps false ns hns
  rw [houtline] at hitems
  obtain ⟨front, t, back, hsteps, hfront, ht, -⟩ := exists_step hitems
  obtain ⟨us, s, vs, rfl, hus, hs, hvs⟩ := exists_step hfront
  -- the walk up to the first item
  let w : Walk := (us ++ [s]).foldl (Walk.take label) {}
  have hseen : w.text.visible = (said label (pre ++ [a])).visible := by
    rw [Walk.visible_foldl_take, flatMap_said_eq, List.map_append, hus, List.map_singleton, hs]
    rfl
  have hne : w.text.visible ≠ [] := by
    rw [hseen, said_append, visible_append, said_cons, visible_append]
    exact fun h => ha (List.append_eq_nil_iff.1 (List.append_eq_nil_iff.1 h).2).1
  have hplaced : w.Placed := Walk.Placed.foldl_take label (fun h => Bool.noConfusion h) _
  obtain ⟨u, v, huv, hu⟩ := Walk.exists_feed_foldl_take label hplaced hne (hvs ▸ hedge)
    (hvs ▸ hmid) (t.said_item label ▸ ht ▸ hb) back
  have hwalk : walkText label ns = u ++ '\n' :: v := by
    rw [← huv, walkText, walkAll_eq_foldl, hsteps, ← List.foldl_append, List.append_assoc,
      List.append_assoc]
    rfl
  have hleft : u.visible = (said label (pre ++ [a])).visible := hu.trans hseen
  refine ⟨u, v, hwalk, hleft, ?_⟩
  -- what is not in front of the line feed is behind it
  have hwhole : u.visible ++ Text.visible v = u.visible ++ (said label (b :: post)).visible :=
    calc u.visible ++ Text.visible v
        = (walkText label ns).visible := by rw [hwalk, visible_append]; rfl
      _ = (said label (pre ++ [a] ++ (mid ++ b :: post))).visible := by
        rw [visible_walkText label hns, houtline, List.append_assoc, List.append_assoc]
        rfl
      _ = u.visible ++ (said label (b :: post)).visible := by
        rw [said_append label (pre ++ [a]), said_append label mid, visible_append, visible_append,
          visible_said_eq_nil label hmid, List.nil_append, ← hleft]
  exact List.append_cancel_left hwhole

end

end

/-- **A walk loses nothing and keeps blocks apart**, in every fragment that is read and whatever the
labels are: what is put out are the texts and the labels of the variable tags, in their order, but for
blanks; and where a block starts or ends between two of them that a reader sees, there is a line feed
between what is seen of them. -/
theorem walkText_readWith_outline (keeps : Text → Bool) (html : Text) (label : Element → Text) :
    let ns := readWith keeps html
    (walkText label ns).visible = (said label (outline ns)).visible ∧
      ∀ pre a mid b post, outline ns = pre ++ a :: mid ++ b :: post → .edge ∈ mid →
        (a.said label).visible ≠ [] → (b.said label).visible ≠ [] →
        (∀ x ∈ mid, (x.said label).visible = []) →
        ∃ u v, walkText label ns = u ++ '\n' :: v ∧
          u.visible = (said label (pre ++ [a])).visible ∧
          Text.visible v = (said label (b :: post)).visible := by
  intro ns
  have hns := voidsEmpty_readWith keeps html
  exact ⟨visible_walkText label hns, fun _ _ _ _ _ => exists_feed_walkText label hns⟩

/-- The end of a block inside an element that is none, and blanks between the block and a tag. -/
theorem walkText_readWith_outline_blocks :
    let ns := read "<b><p>a</p></b> <i identifier=@b.c>".toList
    let tag : Element := ⟨"i".toList, [⟨"identifier".toList, "@b.c".toList⟩], []⟩
    outline ns = [.edge, .text ['a'], .edge, .text [' '], .tag tag] ∧
      ∃ u v, walkText Element.identifierText ns = u ++ '\n' :: v ∧
        u.visible = ['a'] ∧ Text.visible v = "@b.c".toList := by
  intro ns tag
  have houtline : outline ns = [.edge, .text ['a'], .edge, .text [' '], .tag tag] := by
    decide +kernel
  obtain ⟨u, v, huv, hu, hv⟩ := (walkText_readWith_outline keepsBlanks _ Element.identifierText).2
    [.edge] (.text ['a']) [.edge, .text [' ']] (.tag tag) [] houtline (by decide) (by decide)
    (by decide +kernel) (by decide)
  exact ⟨houtline, u, v, huv, hu.trans (by decide), hv.trans (by decide +kernel)⟩

end LiveText
