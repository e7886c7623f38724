import LiveText.Markup.Fragment

/-!
# Elements that hold nothing

An element that is closed by its start tag is never open while a fragment is read, so no node gets
into it (`voidsEmpty_readWith`). The invariant of the assembly is `Assembly.VoidsEmpty`: it is about
the open elements too, since a node that is put in goes to the innermost of them.
-/

set_option autoImplicit false

namespace LiveText.Markup

open Text

/-- An element that is closed by its start tag holds nothing, neither at the top nor further in. -/
inductive VoidsEmpty : Node → Prop
  | text (region : Region) (t : Text) : VoidsEmpty (.text region t)
  | comment (t : Text) : VoidsEmpty (.comment t)
  | doctype (t : Text) : VoidsEmpty (.doctype t)
  | element {name : Text} {as : List Attribute} {children : List Node}
      (hvoid : isVoid name = true → children = []) (hchildren : ∀ n ∈ children, VoidsEmpty n) :
      VoidsEmpty (.element name as children)

/-! ## What is being assembled -/

/-- An open element that is none of those that are closed by their start tags. -/
structure OpenElement.VoidsEmpty (e : OpenElement) : Prop where
  isVoid : isVoid e.name = false
  nodes : ∀ n ∈ e.nodes, Markup.VoidsEmpty n

/-- A document body that is being assembled. -/
structure Assembly.VoidsEmpty (a : Assembly) : Prop where
  nodes : ∀ n ∈ a.nodes, Markup.VoidsEmpty n
  opened : ∀ e ∈ a.openElements, e.VoidsEmpty

/-- An open element can be closed. -/
theorem OpenElement.VoidsEmpty.close {e : OpenElement} (h : e.VoidsEmpty) :
    Markup.VoidsEmpty (.element e.name e.attributes e.nodes.reverse) := by
  refine .element (fun hvoid => ?_) fun n hn => h.nodes n (List.mem_reverse.1 hn)
  rw [h.isVoid] at hvoid
  exact Bool.noConfusion hvoid

namespace Assembly

section
variable {a : Assembly} (h : a.VoidsEmpty)
include h

theorem VoidsEmpty.push {n : Node} (hn : Markup.VoidsEmpty n) : (a.push n).VoidsEmpty := by
  obtain ⟨hnodes, hopened⟩ := h
  rw [Assembly.push]
  cases hopen : a.openElements with
  | nil => exact ⟨List.forall_mem_cons.2 ⟨hn, hnodes⟩, fun e he => absurd he List.not_mem_nil⟩
  | cons e es =>
    rw [hopen] at hopened
    obtain ⟨he, hes⟩ := List.forall_mem_cons.1 hopened
    exact ⟨hnodes,
      List.forall_mem_cons.2 ⟨⟨he.isVoid, List.forall_mem_cons.2 ⟨hn, he.nodes⟩⟩, hes⟩⟩

theorem VoidsEmpty.settle : a.settle.VoidsEmpty := by
  rw [Assembly.settle]
  split
  · exact h
  · have hempty : Assembly.VoidsEmpty { a with gathered := [] } := ⟨h.nodes, h.opened⟩
    exact hempty.push (.text _ _)

theorem VoidsEmpty.close : a.close.VoidsEmpty := by
  obtain ⟨hnodes, hopened⟩ := h.settle
  rw [Assembly.close]
  cases hopen : a.settle.openElements with
  | nil => exact ⟨hnodes, hopened⟩
  | cons e es =>
    rw [hopen] at hopened
    obtain ⟨he, hes⟩ := List.forall_mem_cons.1 hopened
    have hclosed : Assembly.VoidsEmpty { a.settle with openElements := es } := ⟨hnodes, hes⟩
    exact hclosed.push he.close

theorem VoidsEmpty.closeMany (n : Nat) : (a.closeMany n).VoidsEmpty := by
  induction n generalizing a with
  | zero => exact h
  | succ n ih => exact ih h.close

theorem VoidsEmpty.closeAll : a.closeAll.VoidsEmpty := (h.closeMany _).settle

/-- A start tag opens an element unless it closes it as well. -/
theorem VoidsEmpty.start (name : Text) (as : List Attribute) (closed : Bool) :
    (a.start name as closed).VoidsEmpty := by
  have hbefore : (a.closeBefore name).VoidsEmpty := h.closeMany _
  rw [Assembly.start]
  split
  · exact ⟨hbefore.nodes, hbefore.opened⟩
  · have hsettled := hbefore.settle
    have hnothing : ∀ n ∈ ([] : List Node), Markup.VoidsEmpty n :=
      fun n hn => absurd hn List.not_mem_nil
    dsimp only
    split
    · exact hsettled.push (.element (fun _ => rfl) hnothing)
    · next hopen =>
      rw [Bool.or_eq_true, not_or, Bool.not_eq_true, Bool.not_eq_true] at hopen
      exact ⟨hsettled.nodes, List.forall_mem_cons.2 ⟨⟨hopen.2, hnothing⟩, hsettled.opened⟩⟩

theorem VoidsEmpty.stop (name : Text) : (a.stop name).VoidsEmpty := by
  rw [Assembly.stop]
  split
  · split
    · exact ⟨h.nodes, h.opened⟩
    · split
      · exact h
      · exact ⟨h.closeAll.nodes, h.closeAll.opened⟩
  · cases openCount? name a.openNames with
    | none => exact h
    | some n => exact h.closeMany n

/-- Taking in a token puts nothing into an element that its start tag closes. -/
theorem VoidsEmpty.step (t : Token) : (a.step t).VoidsEmpty := by
  unfold Assembly.step
  split
  · exact h
  · cases t with
    | text t => exact ⟨h.nodes, h.opened⟩
    | startTag name as closed => exact h.start name as closed
    | endTag name => exact h.stop name
    | comment t => exact h.settle.push (.comment t)
    | doctype t => exact h.settle.push (.doctype t)

theorem VoidsEmpty.foldl_step (ts : List Token) : (ts.foldl Assembly.step a).VoidsEmpty := by
  induction ts generalizing a with
  | nil => exact h
  | cons t ts ih => exact ih (h.step t)

end

end Assembly

/-! ## Fragments -/

theorem voidsEmpty_nodes (keeps : Text → Bool) (ts : List Token) :
    ∀ n ∈ nodes keeps ts, VoidsEmpty n := by
  have hempty : Assembly.VoidsEmpty { keeps } :=
    ⟨fun _ hn => absurd hn List.not_mem_nil, fun _ he => absurd he List.not_mem_nil⟩
  exact fun n hn => (hempty.foldl_step ts).closeAll.nodes n (List.mem_reverse.1 hn)

theorem voidsEmpty_dissolveWrapper {ns : List Node} (h : ∀ n ∈ ns, VoidsEmpty n) :
    ∀ n ∈ dissolveWrapper ns, VoidsEmpty n := by
  induction ns with
  | nil => exact h
  | cons n ns ih =>
    obtain ⟨hn, hns⟩ := List.forall_mem_cons.1 h
    cases hn with
    | text region t => exact List.forall_mem_cons.2 ⟨.text region t, ih hns⟩
    | comment t => exact List.forall_mem_cons.2 ⟨.comment t, ih hns⟩
    | doctype t => exact List.forall_mem_cons.2 ⟨.doctype t, ih hns⟩
    | element hvoid hchildren =>
      rw [dissolveWrapper]
      split
      · exact List.forall_mem_append.2 ⟨hchildren, hns⟩
      · exact List.forall_mem_cons.2 ⟨.element hvoid hchildren, ih hns⟩

/-- **An element that its start tag closes holds nothing**, in every fragment that is read. -/
theorem voidsEmpty_readWith (keeps : Text → Bool) (t : Text) :
    ∀ n ∈ readWith keeps t, VoidsEmpty n :=
  voidsEmpty_dissolveWrapper (voidsEmpty_nodes keeps _)

end LiveText.Markup
