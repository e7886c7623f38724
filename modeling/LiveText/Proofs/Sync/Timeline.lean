import LiveText.Proofs.Sync.History

/-!
# Timelines of debouncers are runs of events

In a `DebouncerTimeline` every run takes a time that was planned, so the order in which things happen
follows from the delay and the plan. In a `DebouncerHistory` they happen in any order. A timeline
`Follows` a history if the debouncer is the same and the same was told of its runs. Whatever is done
with a timeline, there is a sequence of events after which a history is followed
(`exists_after_of_reachable`); so what is promised of a debouncer after every sequence of events holds
of every timeline.

The end of a run and the start of the next one are one step of a timeline and two events.
-/

set_option autoImplicit false

namespace LiveText.DebouncerTimeline

open DebouncerHistory

/-! ## Following a history -/

/-- The debouncer is that of the history, and the same was told of its runs. -/
structure Follows (l : DebouncerTimeline) (h : DebouncerHistory) : Prop where
  debouncer : h.debouncer = l.debouncer
  marks : h.log.map TriggerMark.mark = l.log.map RunEvent.mark

variable {delay : Nat} {es : List Event} {l l' : DebouncerTimeline} {h : DebouncerHistory}

theorem follows_new (delay : Nat) (plan : Nat → RunPlan) :
    Follows { plan, debouncer := { delay } } (after delay []) where
  debouncer := rfl
  marks := rfl

/-- The moment, the plan and the end of a run do not matter to a history. -/
theorem Follows.of_eq (hl : l.Follows h) (hdebouncer : l'.debouncer = l.debouncer)
    (hlog : l'.log = l.log) : l'.Follows h :=
  ⟨hdebouncer ▸ hl.debouncer, hlog ▸ hl.marks⟩

/-- A timeline and a history go on in the same way. -/
theorem Follows.proceed (hl : l.Follows h) {d d' : Debouncer} (heq : d' = d)
    (hd : l.debouncer.runs < d.runs → d.running = true) : (l.proceed d).Follows (h.proceed d') := by
  subst heq
  refine ⟨?_, ?_⟩
  · rw [DebouncerHistory.debouncer_proceed, debouncer_proceed]
  · unfold DebouncerTimeline.proceed DebouncerHistory.proceed
    rw [hl.debouncer]
    split
    · next hlt =>
      obtain ⟨t, ht⟩ := Option.isSome_iff_exists.1 (hd hlt)
      rw [ht, List.map_append, List.map_append, hl.marks]
      rfl
    · exact hl.marks

theorem Follows.trigger (hl : l.Follows h) : l.trigger.Follows (h.happen (.trigger l.now)) :=
  have hcalled : l.Follows { h with calledOff := false } := ⟨hl.debouncer, hl.marks⟩
  hcalled.proceed (by rw [hl.debouncer]) fun hlt => absurd hlt (Nat.lt_irrefl _)

theorem Follows.cancel (hl : l.Follows h) : l.cancel.Follows (h.happen .cancel) :=
  have hcalled : l.Follows { h with calledOff := h.calledOff || h.debouncer.pending } :=
    ⟨hl.debouncer, hl.marks⟩
  hcalled.proceed (by rw [hl.debouncer]) fun hlt => absurd hlt (Nat.lt_irrefl _)

theorem Follows.fire (hl : l.Follows h) : l.fire.Follows h.fire :=
  have hentered : l.Follows { h with
      entered := h.entered ++ (h.debouncer.timer.map Timer.trigger).toList } :=
    ⟨hl.debouncer, hl.marks⟩
  hentered.proceed (by rw [hl.debouncer]) l.debouncer.running_fire

/-- The end of a run is one event, and another one is that the next run goes on. -/
theorem Follows.finish (hl : l.Follows h) (hrunning : l.debouncer.running = true) :
    l.finish.Follows
      ((h.happen (.ended (l.plan l.debouncer.runs).fails)).happen .admitted) := by
  obtain ⟨t, ht⟩ := Option.isSome_iff_exists.1 hrunning
  have hended : h.happen (.ended (l.plan l.debouncer.runs).fails) = { h with
      debouncer := h.debouncer.release
      log := h.log ++ [⟨if (l.plan l.debouncer.runs).fails then .failed else .ended, t⟩] } := by
    show h.finish _ = _
    rw [DebouncerHistory.finish, hl.debouncer, ht]
  rw [hended]
  have hreleased : Follows
      { l with
        debouncer := l.debouncer.release
        log := l.log ++ [⟨if (l.plan l.debouncer.runs).fails then .failed else .ended,
          l.debouncer.runs, l.now⟩] }
      { h with
        debouncer := h.debouncer.release
        log := h.log ++ [⟨if (l.plan l.debouncer.runs).fails then .failed else .ended, t⟩] } := by
    refine ⟨congrArg Debouncer.release hl.debouncer, ?_⟩
    rw [List.map_append, List.map_append, hl.marks]
    rfl
  exact hreleased.proceed (by rw [hl.debouncer]; rfl) l.debouncer.release.running_takeNext

/-! ## Letting time go by -/

theorem Follows.advance (hl : l.Follows (after delay es)) (moment : Nat) :
    ∃ es', (l.advance moment).Follows (after delay es') := by
  fun_induction DebouncerTimeline.advance moment l generalizing es with
  | case1 l h => exact ⟨es, hl.of_eq rfl rfl⟩
  | case2 l time h hdue ih =>
    have hmoment : Follows { l with now := time } (after delay es) := hl.of_eq rfl rfl
    exact @ih (.due :: es) hmoment.fire
  | case3 l time h hdue => exact ⟨es, hl.of_eq rfl rfl⟩
  | case4 l time h hdue ih =>
    have hmoment : Follows { l with now := time } (after delay es) := hl.of_eq rfl rfl
    exact @ih (.admitted :: .ended _ :: es) (hmoment.finish (running_of_next h))
  | case5 l time h hdue => exact ⟨es, hl.of_eq rfl rfl⟩

theorem Follows.awaitRun (hl : l.Follows (after delay es)) (run : Nat) :
    ∃ es', (l.awaitRun run).Follows (after delay es') := by
  fun_induction DebouncerTimeline.awaitRun run l generalizing es with
  | case1 l h => exact ⟨es, hl⟩
  | case2 l h hnext => exact ⟨es, hl⟩
  | case3 l h time hnext ih =>
    have hmoment : Follows { l with now := time } (after delay es) := hl.of_eq rfl rfl
    exact @ih (.due :: es) hmoment.fire
  | case4 l h time hnext ih =>
    have hmoment : Follows { l with now := time } (after delay es) := hl.of_eq rfl rfl
    exact @ih (.admitted :: .ended _ :: es) (hmoment.finish (running_of_next hnext))

/-- A flush does not wait for the timer, and then it waits for the run. -/
theorem Follows.flush (hl : l.Follows (after delay es)) :
    ∃ es', l.flush.2.Follows (after delay es') := by
  unfold DebouncerTimeline.flush
  split
  · have hfired : l.fire.Follows (after delay (.flush :: es)) := hl.fire
    exact hfired.awaitRun _
  · exact ⟨es, hl⟩

/-! ## What is done with a timeline -/

/-- One thing is done. -/
inductive Step (l : DebouncerTimeline) : DebouncerTimeline → Prop
  | trigger : Step l l.trigger
  | cancel : Step l l.cancel
  | flush : Step l l.flush.2
  | advance (moment : Nat) : Step l (l.advance moment)
  | settle : Step l l.settle

/-- The timelines of a new debouncer. -/
inductive Reachable (delay : Nat) : DebouncerTimeline → Prop
  | new (plan : Nat → RunPlan) : Reachable delay { plan, debouncer := { delay } }
  | step {l l' : DebouncerTimeline} (hr : Reachable delay l) (hs : Step l l') : Reachable delay l'

theorem Step.exists_follows (hs : l.Step l') (hl : l.Follows (after delay es)) :
    ∃ es', l'.Follows (after delay es') := by
  cases hs with
  | trigger => exact ⟨.trigger l.now :: es, hl.trigger⟩
  | cancel => exact ⟨.cancel :: es, hl.cancel⟩
  | flush => exact hl.flush
  | advance moment => exact hl.advance moment
  | settle => exact hl.advance l.now

/-- **A timeline follows what happens to a debouncer after some sequence of events.** -/
theorem exists_after_of_reachable (hr : Reachable delay l) :
    ∃ es, l.Follows (after delay es) := by
  induction hr with
  | new plan => exact ⟨[], follows_new delay plan⟩
  | step _ hs ih =>
    obtain ⟨es, hl⟩ := ih
    exact hs.exists_follows hl

/-- The runs of a timeline follow one another. -/
theorem marks_of_reachable (hr : Reachable delay l) : ∃ past,
    l.log.map RunEvent.mark = (serial past l.debouncer.active).map TriggerMark.mark := by
  obtain ⟨es, hl⟩ := exists_after_of_reachable hr
  obtain ⟨past, hlog⟩ := (inv_after delay es).serial
  exact ⟨past, by rw [← hl.marks, hlog, hl.debouncer]⟩

end LiveText.DebouncerTimeline
