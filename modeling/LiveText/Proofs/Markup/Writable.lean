import LiveText.Proofs.Markup.Guarded

/-!
# What is read can be written

The nodes that are assembled of the tokens of a text are `Writable`. The invariant of the assembly is
`Assembly.Writable`: its nodes can be written, and the open elements hold markup. It does not hold
while the text of an element is read that holds none; but such an element is closed by the next token
(`Guarded`), so its tokens are taken in together (`foldl_step_raw`).
-/

set_option autoImplicit false

namespace LiveText.Markup

open Text

/-! ## What is being assembled -/

/-- An open element that can be written once it is closed. -/
structure OpenElement.Writable (e : OpenElement) : Prop where
  tag : ProperTag e.name e.attributes
  rule : ContentRule.of e.name = .markup
  nodes : ∀ n ∈ e.nodes, Markup.Writable n

/-- A document body that is being assembled of nodes that can be written. -/
structure Assembly.Writable (a : Assembly) : Prop where
  nodes : ∀ n ∈ a.nodes, Markup.Writable n
  opened : ∀ e ∈ a.openElements, e.Writable

theorem ProperTag.tidied {name : Text} {as : List Attribute} (h : ProperTag name as) :
    ProperTag name (as.map (Attribute.tidied name)) := by
  refine ⟨h.tagName, h.stable, List.forall_mem_map.2 fun a ha => ?_⟩
  have hname : (a.tidied name).name = a.name := by
    rw [Attribute.tidied]
    split
    · rfl
    · rfl
  rw [Attribute.Readable, hname]
  exact h.attributes a ha

/-- The names of elements that hold no markup are ordinary ones otherwise. -/
theorem not_surrounding_of_rule {name : Text} (h : ContentRule.of name ≠ .markup) :
    isSurrounding name = false ∧ isVoid name = false := by
  have hnames : (verbatimNames ++ referencedNames).all
      (fun n => !isSurrounding n && !isVoid n) = true := by decide +kernel
  have hmem : name ∈ verbatimNames ++ referencedNames := by
    rw [List.mem_append]
    by_contra hno
    rw [not_or] at hno
    rw [ContentRule.of, if_neg hno.1, if_neg hno.2] at h
    exact h rfl
  have := List.all_eq_true.1 hnames name hmem
  rwa [Bool.and_eq_true, Bool.not_eq_true', Bool.not_eq_true'] at this

namespace Assembly

section
variable {a : Assembly} (h : a.Writable)
include h

theorem Writable.push {n : Node} (hn : Markup.Writable n) : (a.push n).Writable := by
  obtain ⟨hnodes, hopened⟩ := h
  rw [Assembly.push]
  cases hopen : a.openElements with
  | nil => exact ⟨List.forall_mem_cons.2 ⟨hn, hnodes⟩, fun e he => absurd he List.not_mem_nil⟩
  | cons e es =>
    rw [hopen] at hopened
    obtain ⟨he, hes⟩ := List.forall_mem_cons.1 hopened
    exact ⟨hnodes, List.forall_mem_cons.2
      ⟨⟨he.tag, he.rule, List.forall_mem_cons.2 ⟨hn, he.nodes⟩⟩, hes⟩⟩

theorem Writable.settle : a.settle.Writable := by
  rw [Assembly.settle]
  split
  · exact h
  · have hempty : Assembly.Writable { a with gathered := [] } := ⟨h.nodes, h.opened⟩
    exact hempty.push (.text _ _)

theorem Writable.close : a.close.Writable := by
  obtain ⟨hnodes, hopened⟩ := h.settle
  rw [Assembly.close]
  cases hopen : a.settle.openElements with
  | nil => exact ⟨hnodes, hopened⟩
  | cons e es =>
    rw [hopen] at hopened
    obtain ⟨he, hes⟩ := List.forall_mem_cons.1 hopened
    have hclosed : Assembly.Writable { a.settle with openElements := es } := ⟨hnodes, hes⟩
    exact hclosed.push (.element he.tag he.rule fun n hn => he.nodes n (List.mem_reverse.1 hn))

theorem Writable.closeMany (n : Nat) : (a.closeMany n).Writable := by
  induction n generalizing a with
  | zero => exact h
  | succ n ih => exact ih h.close

theorem Writable.closeBefore (tag : Text) : (a.closeBefore tag).Writable := h.closeMany _

theorem Writable.closeAll : a.closeAll.Writable := (h.closeMany _).settle

/-- A start tag closes elements and opens one, or puts in one that is closed at once. -/
theorem Writable.start {name : Text} {as : List Attribute} {closed : Bool}
    (htag : ProperTag name as) (hrule : closed = true ∨ ContentRule.of name = .markup) :
    (a.start name as closed).Writable := by
  have hbefore := h.closeBefore name
  rw [Assembly.start]
  split
  · exact ⟨hbefore.nodes, hbefore.opened⟩
  · have hsettled := hbefore.settle
    dsimp only
    split
    · refine hsettled.push ?_
      by_cases hmarkup : ContentRule.of name = .markup
      · exact .element htag.tidied hmarkup fun n hn => absurd hn List.not_mem_nil
      · exact .raw htag.tidied hmarkup (fun n hn => absurd hn List.not_mem_nil)
          fun _ => unclosed_of_no_bracket htag.tagName List.not_mem_nil
    · next hopen =>
      rw [Bool.or_eq_true, not_or] at hopen
      exact ⟨hsettled.nodes, List.forall_mem_cons.2
        ⟨⟨htag.tidied, hrule.resolve_left hopen.1, fun n hn => absurd hn List.not_mem_nil⟩,
          hsettled.opened⟩⟩

theorem Writable.stop (name : Text) : (a.stop name).Writable := by
  rw [Assembly.stop]
  split
  · split
    · exact ⟨h.nodes, h.opened⟩
    · split
      · exact h
      · exact ⟨h.closeAll.nodes, h.closeAll.opened⟩
  · cases openCount? name a.openNames with
    | none => exact h
    | some n => exact h.closeMany n

/-- Taking in a token keeps what is being assembled writable. -/
theorem Writable.step {t : Token} (ht : t.Sound) : (a.step t).Writable := by
  unfold Assembly.step
  split
  · exact h
  · cases t with
    | text t => exact ⟨h.nodes, h.opened⟩
    | startTag name as closed => exact h.start ht.1 ht.2
    | endTag name => exact h.stop name
    | comment t => exact h.settle.push (.comment ht.1 ht.2)
    | doctype t => exact h.settle.push (.doctype ht.1 ht.2)

end

end Assembly

/-! ## Elements that hold no markup -/

section
variable {name : Text} {as : List Attribute} {u : Text} (hraw : RawElement name as u)
include hraw

/-- The text of an element may have been shortened, if there are only blanks in it. -/
theorem RawElement.writable {t : Text} (ht : t = u ∨ t = Assembly.shortenBlanks u) (region : Region) :
    Writable (.element name as [.text region t]) := by
  have hwritten : writeAll true [.text region t] = t := List.append_nil t
  refine .raw hraw.tag hraw.rule (List.forall_mem_singleton.2 ⟨region, t, rfl⟩) fun hverbatim => ?_
  obtain ⟨hunclosed, hstable⟩ := hraw.unclosed hverbatim
  have hkept : t = u → Unclosed name (prepared t) := by
    rintro rfl
    rwa [prepared_eq_self hstable]
  rw [hwritten]
  rcases ht with ht | ht
  · exact hkept ht
  · rw [Assembly.shortenBlanks] at ht
    split at ht
    · refine unclosed_of_no_bracket hraw.tag.tagName ?_
      rw [mem_prepared (by decide), ht]
      split
      · decide
      · decide
    · exact hkept ht

theorem RawElement.tidied : RawElement name (as.map (Attribute.tidied name)) u :=
  ⟨hraw.tag.tidied, hraw.rule, hraw.unclosed⟩

theorem RawElement.writable_nil : Writable (.element name as []) :=
  .raw hraw.tag hraw.rule (fun _ hn => absurd hn List.not_mem_nil)
    fun _ => unclosed_of_no_bracket hraw.tag.tagName List.not_mem_nil

end

namespace Assembly

/-- The text `u` of an element that holds no markup was read. -/
def inRaw (a : Assembly) (name : Text) (as : List Attribute) (u : Text) : Assembly :=
  { a with openElements := ⟨name, as, []⟩ :: a.openElements, gathered := u }

/-- When the element is closed, what is being assembled is writable again. -/
theorem Writable.close_inRaw {a : Assembly} (h : a.Writable) {name : Text} {as : List Attribute}
    {u : Text} (hraw : RawElement name as u) : (a.inRaw name as u).close.Writable := by
  have hempty : Assembly.Writable { a with gathered := [] } := ⟨h.nodes, h.opened⟩
  cases u with
  | nil => exact hempty.push hraw.writable_nil
  | cons c u =>
    refine hempty.push (hraw.writable (t := if (a.inRaw name as (c :: u)).openNames.any a.keeps then
      c :: u else shortenBlanks (c :: u)) ?_ (a.inRaw name as (c :: u)).region)
    split
    · exact .inl rfl
    · exact .inr rfl

theorem foldl_step_of_ended {a : Assembly} (h : a.ended = true) (ts : List Token) :
    ts.foldl step a = a := by
  induction ts with
  | nil => rfl
  | cons t ts ih => rw [List.foldl_cons, step.eq_def, if_pos h, ih]

theorem ended_push (n : Node) (a : Assembly) : (a.push n).ended = a.ended := by
  rw [push]
  cases a.openElements with
  | nil => rfl
  | cons e es => rfl

theorem ended_settle (a : Assembly) : a.settle.ended = a.ended := by
  rw [settle]
  split
  · rfl
  · exact ended_push _ _

theorem ended_close (a : Assembly) : a.close.ended = a.ended := by
  rw [close]
  cases a.settle.openElements with
  | nil => exact ended_settle a
  | cons e es => exact (ended_push _ _).trans (ended_settle a)

theorem ended_closeMany (a : Assembly) (n : Nat) : (a.closeMany n).ended = a.ended := by
  induction n generalizing a with
  | zero => rfl
  | succ n ih => rw [closeMany, ih, ended_close]

theorem gathered_settle (a : Assembly) : a.settle.gathered = [] := by
  rw [settle]
  split
  · next h => exact List.isEmpty_iff.1 h
  · rw [push]
    cases a.openElements with
    | nil => rfl
    | cons e es => rfl

/-- The tokens of an element that holds no markup, up to its end tag. -/
theorem foldl_step_raw {a : Assembly} (hended : a.ended = false) {name : Text} {as : List Attribute}
    {u : Text} (hraw : RawElement name as u) :
    (Token.startTag name as false :: textToken u).foldl step a =
      (a.closeBefore name).settle.inRaw name (as.map (Attribute.tidied name)) u := by
  obtain ⟨hsurrounding, hvoid⟩ := not_surrounding_of_rule hraw.rule
  have hbefore : (a.closeBefore name).settle.ended = false := by
    rw [ended_settle, closeBefore, ended_closeMany, hended]
  have hstart : a.step (.startTag name as false) =
      (a.closeBefore name).settle.inRaw name (as.map (Attribute.tidied name)) [] := by
    rw [step_startTag hended, start, if_neg (by simp [hsurrounding]), if_neg (by simp [hvoid]), inRaw,
      ← gathered_settle (a.closeBefore name)]
  rw [List.foldl_cons, hstart]
  cases u with
  | nil => rfl
  | cons c u =>
    have hopen : ((a.closeBefore name).settle.inRaw name (as.map (Attribute.tidied name)) []).ended =
        false := hbefore
    exact step_text hopen (c :: u)

theorem stop_inRaw (a : Assembly) {name : Text} {as : List Attribute} {u : Text}
    (hraw : RawElement name as u) :
    (a.inRaw name (as.map (Attribute.tidied name)) u).stop name =
      (a.inRaw name (as.map (Attribute.tidied name)) u).close := by
  obtain ⟨hsurrounding, -⟩ := not_surrounding_of_rule hraw.rule
  have hcount : openCount? name (a.inRaw name (as.map (Attribute.tidied name)) u).openNames = some 1 :=
    if_pos rfl
  rw [stop, if_neg (by simp [hsurrounding]), hcount]
  rfl

/-- What is assembled of the tokens that a reader finds can be written. -/
theorem Writable.foldl_step {ts : List Token} (hts : Guarded ts) {a : Assembly} (h : a.Writable) :
    (ts.foldl Assembly.step a).closeAll.Writable := by
  induction hts generalizing a with
  | nil => exact h.closeAll
  | cons ht _ ih => exact ih (h.step ht)
  | @raw name as u ts hraw _ ih =>
    by_cases hended : a.ended
    · rw [foldl_step_of_ended hended]
      exact h.closeAll
    · rw [Bool.not_eq_true] at hended
      have hclosed := (h.closeBefore name).settle.close_inRaw hraw.tidied
      have hopen : ((a.closeBefore name).settle.inRaw name
          (as.map (Attribute.tidied name)) u).ended = false := by
        rw [inRaw, ended_settle, Assembly.closeBefore, ended_closeMany, hended]
      rw [← List.cons_append, List.foldl_append, foldl_step_raw hended hraw, List.foldl_cons,
        step_endTag hopen, stop_inRaw _ hraw]
      exact ih hclosed
  | @unfinished name as u hraw =>
    by_cases hended : a.ended
    · rw [foldl_step_of_ended hended]
      exact h.closeAll
    · rw [Bool.not_eq_true] at hended
      rw [foldl_step_raw hended hraw]
      exact (((h.closeBefore name).settle.close_inRaw hraw.tidied).closeMany _).settle

end Assembly

/-! ## Nodes -/

/-- The nodes of the tokens that a reader finds can be written. -/
theorem writable_nodes (keeps : Text → Bool) {ts : List Token} (h : Guarded ts) :
    ∀ n ∈ nodes keeps ts, Writable n := by
  have hempty : Assembly.Writable { keeps } :=
    ⟨fun _ hn => absurd hn List.not_mem_nil, fun _ he => absurd he List.not_mem_nil⟩
  exact fun n hn => (hempty.foldl_step h).nodes n (List.mem_reverse.1 hn)

theorem writable_dissolveWrapper {ns : List Node} (h : ∀ n ∈ ns, Writable n) :
    ∀ n ∈ dissolveWrapper ns, Writable n := by
  induction ns with
  | nil => exact h
  | cons n ns ih =>
    obtain ⟨hn, hns⟩ := List.forall_mem_cons.1 h
    cases n with
    | text region t => exact List.forall_mem_cons.2 ⟨hn, ih hns⟩
    | comment t => exact List.forall_mem_cons.2 ⟨hn, ih hns⟩
    | doctype t => exact List.forall_mem_cons.2 ⟨hn, ih hns⟩
    | element name as children =>
      rw [dissolveWrapper]
      split
      · next hname =>
        cases hn with
        | element _ _ hchildren => exact List.forall_mem_append.2 ⟨hchildren, hns⟩
        | raw _ hrule => exact absurd (hname ▸ rule_div) hrule
      · exact List.forall_mem_cons.2 ⟨hn, ih hns⟩

/-- **The nodes of a fragment can be written.** -/
theorem writable_readWith (keeps : Text → Bool) (t : Text) : ∀ n ∈ readWith keeps t, Writable n :=
  writable_dissolveWrapper (writable_nodes keeps (guarded_tokens (stable_prepared _)))

end LiveText.Markup
