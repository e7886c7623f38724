import LiveText.Proofs.Identifier.Separation
import LiveText.Proofs.Session.Timeline

/-!
# The contents that a session hands out

A content is an object, and whoever holds an object can change it at any time. A session keeps one
object; when it is written to, it makes a new one, and who asks for the content is given a copy. A
`SharedSession` is a session with all these objects: those that it kept, the copies, and those that
editors made to have the content replaced by them.

So a session goes on as if there were no objects at all (`present_after`), and its content is always
made of markup: the other forms are computed from that (`Aligned`), whatever an object from an editor
says about them.

## What is here

* `Aligned`, and that every content of a session is so.
* `SharedSession` with what happens to it, `calls` with what the session sees of that, and the invariant
  `Apart` that this follows from.
* **`shared_after`** is what is promised.
-/

set_option autoImplicit false

namespace LiveText

/-! ## The three forms -/

/-- The raw and the plain text are those of the markup, and identifiers are apart. -/
structure Content.Aligned (c : Content) : Prop where
  raw : c.raw = rawText c.html
  plain : c.plain = plainText c.html
  separated : separate c.raw = c.raw

theorem Content.aligned_ofHtml (html : Text) : (ofHtml html).Aligned where
  raw := rfl
  plain := rfl
  separated := separate_separate _

theorem Content.aligned_empty : Content.Aligned {} := ofHtml_nil ▸ aligned_ofHtml []

namespace SessionHistory

/-- What writes makes the content from markup. -/
theorem aligned_happen_of_writes (h : SessionHistory) {e : Event} (hw : e.writes = true) :
    (h.happen e).session.content.Aligned := by
  cases e with
  | takeIn surface now html =>
    have hcontent : (h.happen (.takeIn surface now html)).session.content = .ofHtml html :=
      Session.content_modifyDebouncer _ _ _
    exact hcontent ▸ Content.aligned_ofHtml _
  | insert r => exact Content.aligned_ofHtml _
  | replaceByContent c =>
    show (h.session.replaceByContent c).content.Aligned
    rw [Session.replaceByContent]
    split <;> exact Content.aligned_ofHtml _
  | replaced t => exact Content.aligned_ofHtml _
  | clear => exact Content.aligned_empty
  | _ => cases hw

theorem aligned_happen {h : SessionHistory} (ha : h.session.content.Aligned) (e : Event) :
    (h.happen e).session.content.Aligned := by
  cases hw : e.writes with
  | true => exact aligned_happen_of_writes h hw
  | false =>
    cases hr : h.recognizes e with
    | true =>
      rw [content_happen_of_recognizes hr]
      exact Content.aligned_ofHtml _
    | false =>
      rw [content_happen_of_not hw hr]
      exact ha

theorem aligned_after (shortIdLength : Int) (typing pasting : Nat) (es : List Event) :
    (after shortIdLength typing pasting es).session.content.Aligned := by
  induction es with
  | nil => exact Content.aligned_empty
  | cons e es ih => exact aligned_happen ih e

end SessionHistory

theorem Session.aligned_of_reachable {shortIdLength : Int} {typing pasting : Nat} {s : Session}
    (hr : Reachable shortIdLength typing pasting s) : s.content.Aligned := by
  obtain ⟨es, hs⟩ := exists_after_of_reachable hr
  rw [hs.like]
  exact SessionHistory.aligned_after shortIdLength typing pasting es

/-! ## Objects -/

/-- A session with the contents as objects, which are numbered in the order in which they were made. -/
structure SharedSession where
  /-- the content in it does not count -/
  history : SessionHistory
  objects : List Content := [{}]
  /-- the object that the session keeps -/
  own : Nat := 0
  /-- the objects that others hold -/
  held : List Nat := []

namespace SharedSession

/-- One thing that happens to a session and its objects. -/
inductive Event
  | session (e : SessionHistory.Event)
  /-- an editor makes an object -/
  | made (c : Content)
  /-- the content is asked for -/
  | read
  /-- the content is replaced by an object that an editor holds -/
  | given (object : Nat)
  /-- an object is changed by someone who holds it -/
  | changed (object : Nat) (c : Content)

/-- What an object holds. -/
def get (object : Nat) (h : SharedSession) : Content := h.objects.getD object {}

/-- The session at this moment: its content is what its object holds. -/
def present (h : SharedSession) : SessionHistory :=
  h.history.modify fun s => { s with content := h.get h.own }

/-- An event of the session; what replaces the content makes a new object. -/
def act (e : SessionHistory.Event) (h : SharedSession) : SharedSession :=
  let k := h.present.happen e
  if e.writes || h.present.recognizes e then
    { h with
      history := k, objects := h.objects ++ [k.session.content], own := h.objects.length }
  else { h with history := k }

/-- Somebody is given a new object. -/
def hand (c : Content) (h : SharedSession) : SharedSession :=
  { h with objects := h.objects ++ [c], held := h.objects.length :: h.held }

/-- What happens next. -/
def happen (e : Event) (h : SharedSession) : SharedSession :=
  match e with
  | .session e => h.act e
  | .made c => h.hand c
  | .read => h.hand (h.get h.own)
  | .given object => if object ∈ h.held then h.act (.replaceByContent (h.get object)) else h
  | .changed object c =>
    if object ∈ h.held then { h with objects := h.objects.set object c } else h

section
variable (shortIdLength : Int) (typing pasting : Nat)

/-- A new session to which events happened, the latest one first. -/
def after : List Event → SharedSession
  | [] => { history := .after shortIdLength typing pasting [] }
  | e :: es => (after es).happen e

/-- What the session sees of the events. -/
def calls : List Event → List SessionHistory.Event
  | [] => []
  | .session e :: es => e :: calls es
  | .given object :: es =>
    let h := after shortIdLength typing pasting es
    if object ∈ h.held then .replaceByContent (h.get object) :: calls es else calls es
  | _ :: es => calls es

end

/-! ## The object of the session is its own -/

/-- The objects were made, and the session's own is held by nobody else. -/
structure Apart (h : SharedSession) : Prop where
  own : h.own < h.objects.length
  held : ∀ object ∈ h.held, object < h.objects.length ∧ object ≠ h.own

variable {h : SharedSession}

/-- An event of the session makes a new object, or leaves its content as it is. -/
theorem act_cases (h : SharedSession) (e : SessionHistory.Event) :
    (h.act e = { h with
      history := h.present.happen e
      objects := h.objects ++ [(h.present.happen e).session.content]
      own := h.objects.length }) ∨
    (h.act e = { h with history := h.present.happen e } ∧
      (h.present.happen e).session.content = h.get h.own) := by
  rw [act]
  split
  · exact .inl rfl
  · next hkeeps =>
    obtain ⟨hw, hr⟩ := Bool.or_eq_false_iff.1 (Bool.eq_false_iff.2 hkeeps)
    exact .inr ⟨rfl, SessionHistory.content_happen_of_not hw hr⟩

theorem Apart.act (ha : h.Apart) (e : SessionHistory.Event) : (h.act e).Apart := by
  rcases h.act_cases e with heq | ⟨heq, -⟩ <;> rw [heq]
  · refine ⟨?_, fun object hobject => ?_⟩
    · show h.objects.length < (h.objects ++ _).length
      rw [List.length_append]
      exact Nat.lt_succ_self _
    · -- the new object is behind all others
      have hlt := (ha.held object hobject).1
      refine ⟨?_, Nat.ne_of_lt hlt⟩
      show object < (h.objects ++ _).length
      rw [List.length_append]
      exact Nat.lt_succ_of_lt hlt
  · exact ⟨ha.own, ha.held⟩

theorem Apart.hand (ha : h.Apart) (c : Content) : (h.hand c).Apart := by
  have hlength : (h.hand c).objects.length = h.objects.length + 1 := List.length_append
  refine ⟨hlength ▸ Nat.lt_succ_of_lt ha.own, fun object hobject => hlength ▸ ?_⟩
  rcases List.mem_cons.1 hobject with rfl | hobject
  · exact ⟨Nat.lt_succ_self _, Nat.ne_of_gt ha.own⟩
  · obtain ⟨hlt, hne⟩ := ha.held object hobject
    exact ⟨Nat.lt_succ_of_lt hlt, hne⟩

theorem Apart.happen (ha : h.Apart) (e : Event) : (h.happen e).Apart := by
  cases e with
  | session e => exact ha.act e
  | made c => exact ha.hand c
  | read => exact ha.hand _
  | given object =>
    by_cases hheld : object ∈ h.held
    · rw [SharedSession.happen, if_pos hheld]
      exact ha.act _
    · rwa [SharedSession.happen, if_neg hheld]
  | changed object c =>
    by_cases hheld : object ∈ h.held
    · rw [SharedSession.happen, if_pos hheld]
      have hlength : (h.objects.set object c).length = h.objects.length := List.length_set
      exact ⟨hlength.symm ▸ ha.own, fun o ho => hlength.symm ▸ ha.held o ho⟩
    · rwa [SharedSession.happen, if_neg hheld]

theorem apart_after (shortIdLength : Int) (typing pasting : Nat) (es : List Event) :
    (after shortIdLength typing pasting es).Apart := by
  induction es with
  | nil => exact ⟨Nat.zero_lt_one, fun _ ho => absurd ho List.not_mem_nil⟩
  | cons e es ih => exact ih.happen e

/-! ## What the session sees -/

/-- A session whose content is that of its object stays as it is. -/
theorem present_eq {k : SessionHistory} (hk : h.history = k)
    (hcontent : h.get h.own = k.session.content) : h.present = k := by
  rw [present, hk, hcontent]
  rfl

/-- The session goes on as if there were no objects. -/
theorem present_act (h : SharedSession) (e : SessionHistory.Event) :
    (h.act e).present = h.present.happen e := by
  rcases h.act_cases e with heq | ⟨heq, hcontent⟩ <;> rw [heq]
  · refine present_eq rfl ?_
    show (h.objects ++ [_]).getD h.objects.length {} = _
    rw [List.getD_eq_getElem?_getD, List.getElem?_concat_length]
    rfl
  · exact present_eq rfl hcontent.symm

/-- Nothing that leaves the object of the session alone matters to it. -/
theorem present_congr {k : SharedSession} (hhistory : k.history = h.history)
    (hcontent : k.get k.own = h.get h.own) : k.present = h.present := by
  rw [present, hhistory, hcontent]
  rfl

theorem present_hand (ha : h.Apart) (c : Content) : (h.hand c).present = h.present := by
  refine present_congr rfl ?_
  show (h.objects ++ [c]).getD h.own {} = h.objects.getD h.own {}
  rw [List.getD_eq_getElem?_getD, List.getD_eq_getElem?_getD, List.getElem?_append_left ha.own]

theorem present_changed (ha : h.Apart) (object : Nat) (c : Content) :
    (h.happen (.changed object c)).present = h.present := by
  by_cases hheld : object ∈ h.held
  · rw [happen, if_pos hheld]
    refine present_congr rfl ?_
    show (h.objects.set object c).getD h.own {} = h.objects.getD h.own {}
    rw [List.getD_eq_getElem?_getD, List.getD_eq_getElem?_getD,
      List.getElem?_set_ne (ha.held object hheld).2]
  · rw [happen, if_neg hheld]

section
variable (shortIdLength : Int) (typing pasting : Nat)

/-- A session with objects is one to which its calls happened. -/
theorem present_after (es : List Event) :
    (after shortIdLength typing pasting es).present =
      .after shortIdLength typing pasting (calls shortIdLength typing pasting es) := by
  induction es with
  | nil => rfl
  | cons e es ih =>
    have ha := apart_after shortIdLength typing pasting es
    rw [after]
    cases e with
    | session e => exact (present_act _ e).trans (congrArg (SessionHistory.happen e) ih)
    | made c => exact (present_hand ha c).trans ih
    | read => exact (present_hand ha _).trans ih
    | given object =>
      rw [calls, happen]
      split
      · exact (present_act _ _).trans (congrArg (SessionHistory.happen _) ih)
      · exact ih
    | changed object c => exact (present_changed ha object c).trans ih

/-! ## What is promised -/

/-- What is promised of a session with objects to which events happened. -/
structure Shared (es : List Event) : Prop where
  /-- the three forms of the content are those of one document -/
  aligned : (after shortIdLength typing pasting es).present.session.content.Aligned
  /-- to change an object that was handed out does not change the session -/
  changed : ∀ object c, (after shortIdLength typing pasting (.changed object c :: es)).present =
    (after shortIdLength typing pasting es).present
  /-- nor does it change what becomes of the session later, which follows from the calls alone -/
  alone : (after shortIdLength typing pasting es).present =
    .after shortIdLength typing pasting (calls shortIdLength typing pasting es)

/-- **The three forms of a content never drift apart**, whatever happens to a session, and whatever is
done to the objects that it hands out. -/
theorem shared_after (es : List Event) : Shared shortIdLength typing pasting es where
  aligned := present_after shortIdLength typing pasting es ▸
    SessionHistory.aligned_after shortIdLength typing pasting _
  changed := fun object c => present_changed (apart_after shortIdLength typing pasting es) object c
  alone := present_after shortIdLength typing pasting es

end

/-- An editor's object lies about its texts, and a copy of the content is changed twice. -/
theorem shared_after_changes :
    let lie : Content := { html := "<p>new</p>".toList, raw := "old".toList, plain := "".toList }
    let es : List Event := [.changed 3 lie, .read, .given 1, .made lie]
    (after 4 300 100 (.changed 3 {} :: es)).present.session.content.raw = "new".toList ∧
      (after 4 300 100 es).present.session.content.Aligned := by
  intro lie es
  refine ⟨?_, (shared_after 4 300 100 es).aligned⟩
  rw [(shared_after 4 300 100 es).changed 3 {}]
  decide +kernel

end SharedSession
end LiveText
