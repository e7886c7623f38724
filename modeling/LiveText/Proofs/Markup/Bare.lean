import LiveText.Markup.Fragment

/-!
# Reading without the texts

Texts have no part in how elements are nested: which element is open and what it holds apart from
texts depends on the tags, comments and declarations alone (`bare_readWith`). So two fragments with
the same `marks` are read as nodes that are the same but for their texts.

## What is here

* `bare` leaves the texts out of nodes, `marks` leaves them out of tokens, `Assembly.bare` out of what
  is being assembled.
* `Assembly.bare_step` is the step: a text changes nothing, any other token does to what is bare what
  it does to the whole. `bare_foldl_step` is the run.
-/

set_option autoImplicit false

namespace LiveText.Markup

/-! ## Leaving texts out -/

mutual

/-- A node without the texts in it; of a text nothing is left. -/
def Node.bare : Node → List Node
  | .text _ _ => []
  | .comment t => [.comment t]
  | .doctype t => [.doctype t]
  | .element name as children => [.element name as (bare children)]

/-- Nodes without the texts in them. -/
def bare : List Node → List Node
  | [] => []
  | n :: ns => n.bare ++ bare ns

end

/-- Whether a token is a text. -/
def Token.isText : Token → Bool
  | .text _ => true
  | _ => false

/-- The tokens that are no texts. -/
def marks (ts : List Token) : List Token := ts.filter (!·.isText)

theorem bare_append (ms ns : List Node) : bare (ms ++ ns) = bare ms ++ bare ns := by
  induction ms with
  | nil => rfl
  | cons m ms ih => rw [List.cons_append, bare, bare, ih, List.append_assoc]

theorem Node.reverse_bare (n : Node) : n.bare.reverse = n.bare := by
  cases n with
  | text region t => rfl
  | comment t => rfl
  | doctype t => rfl
  | element name as children => rw [bare, List.reverse_singleton]

theorem bare_reverse (ns : List Node) : bare ns.reverse = (bare ns).reverse := by
  induction ns with
  | nil => rfl
  | cons n ns ih =>
    rw [List.reverse_cons, bare_append, ih, bare, bare, bare, List.reverse_append, n.reverse_bare,
      List.append_nil]

/-! ## Assembling without texts -/

/-- An open element without the texts in it. -/
def OpenElement.bare (e : OpenElement) : OpenElement := { e with nodes := Markup.bare e.nodes }

namespace Assembly

/-- What is being assembled, without the texts in it. -/
def bare (a : Assembly) : Assembly :=
  { a with openElements := a.openElements.map OpenElement.bare, nodes := Markup.bare a.nodes,
           gathered := [] }

theorem openNames_bare (a : Assembly) : a.bare.openNames = a.openNames := by
  rw [openNames, bare, List.map_map]
  rfl

/-- Nothing is gathered where texts are left out. -/
theorem settle_bare (a : Assembly) : a.bare.settle = a.bare := rfl

theorem bare_push_text (region : Region) (t : Text) (a : Assembly) :
    (a.push (.text region t)).bare = a.bare := by
  rw [push]
  cases h : a.openElements with
  | nil => rw [bare, bare, h, Markup.bare, Node.bare, List.nil_append]
  | cons e es =>
    rw [bare, bare, h, List.map_cons, List.map_cons, OpenElement.bare, OpenElement.bare, Markup.bare,
      Node.bare, List.nil_append]

/-- A node that is no text may be put in before or after the texts are left out. -/
theorem bare_push {n m : Node} (h : n.bare = [m]) (a : Assembly) :
    (a.push n).bare = a.bare.push m := by
  rw [push, push]
  cases hopen : a.openElements with
  | nil => simp [bare, hopen, Markup.bare, h]
  | cons e es => simp [bare, hopen, OpenElement.bare, Markup.bare, h]

theorem bare_settle (a : Assembly) : a.settle.bare = a.bare := by
  rw [settle]
  split
  · rfl
  · exact bare_push_text _ _ { a with gathered := [] }

theorem bare_close (a : Assembly) : a.close.bare = a.bare.close := by
  have hsettle := a.bare_settle
  rw [close, close, settle_bare]
  cases h : a.settle.openElements with
  | nil =>
    have hopen : a.bare.openElements = [] := by
      rw [← hsettle, bare, h]
      rfl
    simp only [hopen, hsettle]
  | cons e es =>
    have hopen : a.bare.openElements = e.bare :: es.map OpenElement.bare := by
      rw [← hsettle, bare, h]
      rfl
    have hnode : (Node.element e.name e.attributes e.nodes.reverse).bare =
        [.element e.bare.name e.bare.attributes e.bare.nodes.reverse] := by
      rw [Node.bare, bare_reverse]
      rfl
    simp only [hopen]
    rw [bare_push hnode, ← hsettle]
    rfl

theorem bare_closeMany (n : Nat) (a : Assembly) : (a.closeMany n).bare = a.bare.closeMany n := by
  induction n generalizing a with
  | zero => rfl
  | succ n ih => rw [closeMany, closeMany, ih, bare_close]

theorem bare_closeAll (a : Assembly) : a.closeAll.bare = a.bare.closeAll := by
  have hlength : a.bare.openElements.length = a.openElements.length := by rw [bare, List.length_map]
  rw [closeAll, bare_settle, bare_closeMany, closeAll, hlength, ← bare_closeMany, settle_bare]

theorem bare_closeBefore (tag : Text) (a : Assembly) :
    (a.closeBefore tag).bare = a.bare.closeBefore tag := by
  rw [closeBefore, closeBefore, openNames_bare, bare_closeMany]

theorem bare_start (name : Text) (as : List Attribute) (closed : Bool) (a : Assembly) :
    (a.start name as closed).bare = a.bare.start name as closed := by
  simp only [start, ← bare_closeBefore]
  split
  · rfl
  · rw [settle_bare, ← bare_settle (a.closeBefore name)]
    split
    · exact bare_push rfl _
    · rfl

theorem bare_stop (name : Text) (a : Assembly) : (a.stop name).bare = a.bare.stop name := by
  rw [stop, stop, openNames_bare]
  split
  · have hleft : a.bare.leftOut = a.leftOut := rfl
    rw [hleft]
    split
    · rfl
    · split
      · rfl
      · rw [← bare_closeAll]
        rfl
  · cases openCount? name a.openNames with
    | none => rfl
    | some n => exact bare_closeMany n a

/-- A text changes nothing but texts. -/
theorem bare_step_text (t : Text) (a : Assembly) : (a.step (.text t)).bare = a.bare := by
  rw [step]
  split
  · rfl
  · rfl

/-- Any other token may be taken in before or after the texts are left out. -/
theorem bare_step {t : Token} (ht : t.isText = false) (a : Assembly) :
    (a.step t).bare = a.bare.step t := by
  have hended : a.bare.ended = a.ended := rfl
  unfold step
  rw [hended]
  split
  · rfl
  · cases t with
    | text t => cases ht
    | startTag name as closed => exact bare_start name as closed a
    | endTag name => exact bare_stop name a
    | comment t => exact (bare_push rfl _).trans (by rw [bare_settle, settle_bare])
    | doctype t => exact (bare_push rfl _).trans (by rw [bare_settle, settle_bare])

theorem bare_foldl_step (ts : List Token) (a : Assembly) :
    (ts.foldl step a).bare = (marks ts).foldl step a.bare := by
  induction ts generalizing a with
  | nil => rfl
  | cons t ts ih =>
    rw [List.foldl_cons, ih]
    cases t with
    | text t => exact congrArg ((marks ts).foldl step) (bare_step_text t a)
    | _ => exact congrArg ((marks ts).foldl step) (bare_step rfl a)

end Assembly

theorem bare_nodes (keeps : Text → Bool) (ts : List Token) :
    bare (nodes keeps ts) = nodes keeps (marks ts) := by
  have hclosed : ∀ a : Assembly, Markup.bare a.closeAll.nodes = a.bare.closeAll.nodes := by
    intro a
    rw [← a.bare_closeAll]
    rfl
  rw [nodes, nodes, bare_reverse, hclosed, Assembly.bare_foldl_step]
  rfl

/-! ## Reading without texts -/

theorem bare_dissolveWrapper (ns : List Node) :
    bare (dissolveWrapper ns) = dissolveWrapper (bare ns) := by
  induction ns with
  | nil => rfl
  | cons n ns ih =>
    cases n with
    | text region t => exact ih
    | comment t => exact congrArg (Node.comment t :: ·) ih
    | doctype t => exact congrArg (Node.doctype t :: ·) ih
    | element name as children =>
      rw [bare, Node.bare, List.singleton_append, dissolveWrapper, dissolveWrapper]
      split
      · exact bare_append _ _
      · rw [bare, Node.bare, ih, List.singleton_append]

/-- **What is read depends on the texts in its texts alone.** -/
theorem bare_readWith (keeps : Text → Bool) (t : Text) :
    bare (readWith keeps t) = dissolveWrapper (nodes keeps
      (marks (tokens (prepared ("<div>".toList ++ t ++ "</div>".toList))))) := by
  rw [readWith, bare_dissolveWrapper, bare_nodes]

end LiveText.Markup
