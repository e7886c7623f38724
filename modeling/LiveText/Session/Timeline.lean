import LiveText.Session.Basic

/-!
# A session in time

As time goes by, the recognitions that were scheduled fall due, the earlier one first.
-/

set_option autoImplicit false

namespace LiveText.Session

/-- The recognition that falls due next, and when. -/
def nextDue (s : Session) : Option (Surface × Nat) :=
  match s.typing.timer, s.pasting.timer with
  | none, none => none
  | some t, none => some (.typing, t.due)
  | none, some p => some (.pasting, p.due)
  | some t, some p => if t.due ≤ p.due then some (.typing, t.due) else some (.pasting, p.due)

/-- How many recognitions are scheduled. -/
def scheduled (s : Session) : Nat :=
  (if s.typing.pending then 1 else 0) + (if s.pasting.pending then 1 else 0)

theorem timer_finish (d : Debouncer) : d.finish.timer = d.timer := by
  unfold Debouncer.finish Debouncer.takeNext
  split <;> rfl

theorem timer_fire (d : Debouncer) : d.fire.timer = none := by
  unfold Debouncer.fire Debouncer.enter
  split
  · assumption
  · split <;> rfl

theorem debouncers_load (s : Session) :
    s.load.typing = s.typing ∧ s.load.pasting = s.pasting := by
  unfold load
  split <;> exact ⟨rfl, rfl⟩

theorem debouncers_recognize (s : Session) :
    s.recognize.typing = s.typing ∧ s.recognize.pasting = s.pasting := debouncers_load s

theorem pending_of_nextDue {s : Session} {surface : Surface} {due : Nat}
    (h : s.nextDue = some (surface, due)) : (s.debouncer surface).pending = true := by
  unfold nextDue at h
  split at h
  · simp at h
  · next ht _ => cases h; simp [debouncer, Debouncer.pending, ht]
  · next hp => cases h; simp [debouncer, Debouncer.pending, hp]
  · next ht hp =>
    split at h <;> cases h <;> simp [debouncer, Debouncer.pending, ht, hp]

/-- A recognition that was due is not scheduled any more. -/
theorem scheduled_fire {s : Session} {surface : Surface} {due : Nat}
    (h : s.nextDue = some (surface, due)) : (s.fire surface).scheduled < s.scheduled := by
  have hp := pending_of_nextDue h
  cases surface with
  | typing =>
    have ht : (s.fire .typing).typing.timer = none := by
      simp only [fire, modifyDebouncer, timer_finish, debouncers_recognize, timer_fire]
    have hq : (s.fire .typing).pasting = s.pasting := by
      simp only [fire, modifyDebouncer, debouncers_recognize]
    simp only [debouncer] at hp
    have hn : (s.fire .typing).typing.pending = false := by simp [Debouncer.pending, ht]
    simp only [scheduled, hq, hp, hn]
    simp
  | pasting =>
    have ht : (s.fire .pasting).pasting.timer = none := by
      simp only [fire, modifyDebouncer, timer_finish, debouncers_recognize, timer_fire]
    have hq : (s.fire .pasting).typing = s.typing := by
      simp only [fire, modifyDebouncer, debouncers_recognize]
    simp only [debouncer] at hp
    have hn : (s.fire .pasting).pasting.pending = false := by simp [Debouncer.pending, ht]
    simp only [scheduled, hq, hp, hn]
    simp

/-- Lets every recognition happen that falls due up to a moment. -/
def advance (moment : Nat) (s : Session) : Session :=
  match _h : s.nextDue with
  | none => s
  | some (surface, due) => if due ≤ moment then (s.fire surface).advance moment else s
termination_by s.scheduled
decreasing_by exact scheduled_fire _h

end LiveText.Session
