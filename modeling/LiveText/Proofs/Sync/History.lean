import Mathlib.Data.List.Perm.Subperm
import LiveText.Sync.Timeline

/-!
# What happens to a debouncer

A `DebouncerHistory` is a debouncer together with what happened to it: which of its runs started and
ended, which triggers came to their turn, and whether the latest trigger was called off. Things happen
in any order (`Event`): a trigger, a cancellation, a flush, the end of a timer, the end of the run that
is going on, be it well or not, and the start of the next run that waits. No moments are told, so a run
may take any time, and a timer whose time is over may go on at once or later.

What is promised of a debouncer is said by `Orderly`: its runs follow one another, each of them belongs
to a trigger of its own, and no trigger is lost. `Inv` is the invariant that this follows from.

## What is here

* `Event`, `happen` and `after`: the runs of events, the latest one first.
* `Inv` with a lemma for each thing that happens; `inv_after` is the run.
* **`orderly_after`** is what is promised.
-/

set_option autoImplicit false

namespace LiveText

/-! ## Steps of a debouncer

A debouncer counts one run more only when it starts one, and none of what follows on a trigger counts
as another one. -/

namespace Debouncer

/-- Who comes to their turn starts if nobody is in front of them. -/
theorem enter_cases (t : Nat) (d : Debouncer) :
    (d.active = none ∧ d.waiting = [] ∧ d.enter t = d.start t) ∨
      d.enter t = { d with waiting := d.waiting ++ [t] } := by
  rw [enter]
  split
  · next hidle =>
    obtain ⟨hactive, hwaiting⟩ := Bool.and_eq_true_iff.1 hidle
    exact .inl ⟨Option.isNone_iff_eq_none.1 hactive, List.isEmpty_iff.1 hwaiting, rfl⟩
  · exact .inr rfl

theorem fire_cases (d : Debouncer) :
    (d.timer = none ∧ d.fire = d) ∨
      ∃ t, d.timer = some t ∧ d.fire = { d with timer := none }.enter t.trigger := by
  rw [fire]
  cases d.timer with
  | none => exact .inl ⟨rfl, rfl⟩
  | some t => exact .inr ⟨t, rfl, rfl⟩

/-- Who waits goes on only if no run is going on. -/
theorem takeNext_cases (d : Debouncer) :
    (∃ t ts, d.active = none ∧ d.waiting = t :: ts ∧
      d.takeNext = { d with waiting := ts }.start t) ∨ d.takeNext = d := by
  rw [takeNext]
  split
  · next t ts hactive hwaiting => exact .inl ⟨t, ts, hactive, hwaiting, rfl⟩
  · exact .inr rfl

theorem triggers_enter (t : Nat) (d : Debouncer) : (d.enter t).triggers = d.triggers := by
  rcases enter_cases t d with ⟨-, -, heq⟩ | heq <;> rw [heq]
  rfl

theorem triggers_fire (d : Debouncer) : d.fire.triggers = d.triggers := by
  rcases d.fire_cases with ⟨-, heq⟩ | ⟨t, -, heq⟩ <;> rw [heq]
  exact triggers_enter _ _

theorem triggers_takeNext (d : Debouncer) : d.takeNext.triggers = d.triggers := by
  rcases d.takeNext_cases with ⟨t, ts, -, -, heq⟩ | heq <;> rw [heq]
  rfl

theorem running_enter (d : Debouncer) (t : Nat) (h : d.runs < (d.enter t).runs) :
    (d.enter t).running = true := by
  rcases enter_cases t d with ⟨-, -, heq⟩ | heq
  · rw [heq]
    rfl
  · rw [heq] at h
    exact absurd h (Nat.lt_irrefl _)

theorem running_fire (d : Debouncer) (h : d.runs < d.fire.runs) : d.fire.running = true := by
  rcases d.fire_cases with ⟨-, heq⟩ | ⟨t, -, heq⟩ <;> rw [heq] at h ⊢
  · exact absurd h (Nat.lt_irrefl _)
  · exact running_enter _ _ h

theorem running_takeNext (d : Debouncer) (h : d.runs < d.takeNext.runs) :
    d.takeNext.running = true := by
  rcases d.takeNext_cases with ⟨t, ts, -, -, heq⟩ | heq
  · rw [heq]
    rfl
  · rw [heq] at h
    exact absurd h (Nat.lt_irrefl _)

end Debouncer

/-! ## Histories -/

/-- What happened to the run of a trigger. -/
structure TriggerMark where
  mark : RunMark
  trigger : Nat
  deriving DecidableEq, Repr

/-- The trigger of a run that started. -/
def TriggerMark.started? (m : TriggerMark) : Option Nat :=
  if m.mark = .started then some m.trigger else none

/-- A debouncer with what happened to it. -/
structure DebouncerHistory where
  debouncer : Debouncer
  /-- what happened to the runs, the first thing first -/
  log : List TriggerMark := []
  /-- the triggers that came to their turn, by the end of their timer or by a flush, in order -/
  entered : List Nat := []
  /-- the latest trigger was called off while its timer was running -/
  calledOff : Bool := false

namespace DebouncerHistory

/-! ## Runs of events -/

/-- One thing that happens to a debouncer. -/
inductive Event
  | trigger (now : Nat)
  | cancel
  /-- who flushes the debouncer does not wait for the timer -/
  | flush
  /-- the timer is over, and what it scheduled goes on -/
  | due
  /-- the run that is going on ends -/
  | ended (failed : Bool)
  /-- the next run that waits goes on -/
  | admitted
  deriving DecidableEq

/-- The history goes on with a debouncer that may have started a run. -/
def proceed (d : Debouncer) (h : DebouncerHistory) : DebouncerHistory :=
  if h.debouncer.runs < d.runs then
    { h with debouncer := d, log := h.log ++ d.active.toList.map (⟨.started, ·⟩) }
  else { h with debouncer := d }

/-- The scheduled run comes to its turn. -/
def fire (h : DebouncerHistory) : DebouncerHistory :=
  { h with entered := h.entered ++ (h.debouncer.timer.map Timer.trigger).toList }.proceed
    h.debouncer.fire

/-- The run that is going on ends. -/
def finish (failed : Bool) (h : DebouncerHistory) : DebouncerHistory :=
  match h.debouncer.active with
  | none => h
  | some t =>
    { h with
      debouncer := h.debouncer.release
      log := h.log ++ [⟨if failed then .failed else .ended, t⟩] }

/-- The history with one more event. -/
def happen (e : Event) (h : DebouncerHistory) : DebouncerHistory :=
  match e with
  | .trigger now => { h with calledOff := false }.proceed (h.debouncer.trigger now)
  | .cancel =>
    { h with calledOff := h.calledOff || h.debouncer.pending }.proceed h.debouncer.cancel
  | .flush => h.fire
  | .due => h.fire
  | .ended failed => h.finish failed
  | .admitted => h.proceed h.debouncer.takeNext

/-- The history of a new debouncer to which events happened, the latest one first. -/
def after (delay : Nat) : List Event → DebouncerHistory
  | [] => { debouncer := { delay } }
  | e :: es => (after delay es).happen e

/-- How often a debouncer was triggered. -/
def triggers : List Event → Nat
  | [] => 0
  | .trigger _ :: es => triggers es + 1
  | _ :: es => triggers es

/-- The triggers whose runs started, in order. -/
def started (h : DebouncerHistory) : List Nat := h.log.filterMap TriggerMark.started?

/-- What is told of runs that are over, each with whether it failed, and of a run that is going on. -/
def serial (past : List (Nat × Bool)) (active : Option Nat) : List TriggerMark :=
  (past.flatMap fun r => [⟨.started, r.1⟩, ⟨if r.2 then .failed else .ended, r.1⟩]) ++
    active.toList.map (⟨.started, ·⟩)

theorem serial_started (past : List (Nat × Bool)) (t : Nat) :
    serial past none ++ [⟨.started, t⟩] = serial past (some t) := by
  simp [serial]

theorem serial_over (past : List (Nat × Bool)) (t : Nat) (failed : Bool) :
    serial past (some t) ++ [⟨if failed then .failed else .ended, t⟩] =
      serial (past ++ [(t, failed)]) none := by
  simp [serial]

theorem filterMap_started (log : List TriggerMark) (t : Nat) :
    (log ++ [(⟨.started, t⟩ : TriggerMark)]).filterMap TriggerMark.started? =
      log.filterMap TriggerMark.started? ++ [t] := by
  rw [List.filterMap_append]
  rfl

theorem filterMap_over (log : List TriggerMark) (t : Nat) (failed : Bool) :
    (log ++ [(⟨if failed then .failed else .ended, t⟩ : TriggerMark)]).filterMap
      TriggerMark.started? = log.filterMap TriggerMark.started? := by
  rw [List.filterMap_append]
  cases failed <;> exact List.append_nil _

theorem proceed_of_not_lt {d : Debouncer} {h : DebouncerHistory} (hd : d.runs = h.debouncer.runs) :
    h.proceed d = { h with debouncer := d } := by
  rw [proceed, if_neg (by omega)]

theorem proceed_start (h : DebouncerHistory) {d : Debouncer} (hd : d.runs = h.debouncer.runs)
    (t : Nat) :
    h.proceed (d.start t) =
      { h with debouncer := d.start t, log := h.log ++ [⟨.started, t⟩] } := by
  have hlt : h.debouncer.runs < (d.start t).runs := by
    rw [Debouncer.start, hd]
    exact Nat.lt_succ_self _
  rw [proceed, if_pos hlt]
  rfl

theorem happen_trigger (h : DebouncerHistory) (now : Nat) : h.happen (.trigger now) =
    { h with calledOff := false, debouncer := h.debouncer.trigger now } :=
  proceed_of_not_lt rfl

theorem happen_cancel (h : DebouncerHistory) : h.happen .cancel =
    { h with
      calledOff := h.calledOff || h.debouncer.pending
      debouncer := h.debouncer.cancel } :=
  proceed_of_not_lt rfl

/-! ## The invariant -/

/-- The runs follow one another, and the triggers that came to their turn are those whose runs
started, and then those whose runs wait. -/
structure Inv (h : DebouncerHistory) : Prop where
  serial : ∃ past, h.log = serial past h.debouncer.active
  entered : h.entered = h.started ++ h.debouncer.waiting
  increasing : h.entered.Pairwise (· < ·)
  within : ∀ t ∈ h.entered, 0 < t ∧ t ≤ h.debouncer.triggers
  /-- the timer is that of the latest trigger, which has not come to its turn -/
  timer : ∀ t ∈ h.debouncer.timer, t.trigger = h.debouncer.triggers ∧ 0 < t.trigger ∧
    ∀ n ∈ h.entered, n < t.trigger
  runs : h.debouncer.runs = h.started.length
  /-- the latest trigger is not lost -/
  latest : h.debouncer.triggers = 0 ∨ h.debouncer.pending = true ∨ h.calledOff = true ∨
    h.debouncer.triggers ∈ h.entered

theorem inv_new (delay : Nat) : Inv { debouncer := { delay } } where
  serial := ⟨[], rfl⟩
  entered := rfl
  increasing := .nil
  within := by simp
  timer := by simp
  runs := rfl
  latest := .inl rfl

variable {h : DebouncerHistory}

theorem Inv.trigger (hi : h.Inv) (now : Nat) : (h.happen (.trigger now)).Inv := by
  rw [happen_trigger]
  refine ⟨hi.serial, hi.entered, hi.increasing, fun t ht => ?_, fun t ht => ?_, hi.runs,
    .inr (.inl rfl)⟩
  · exact ⟨(hi.within t ht).1, Nat.le_succ_of_le (hi.within t ht).2⟩
  · cases ht
    exact ⟨rfl, Nat.succ_pos _, fun n hn => Nat.lt_succ_of_le (hi.within n hn).2⟩

theorem Inv.cancel (hi : h.Inv) : (h.happen .cancel).Inv := by
  rw [happen_cancel]
  refine ⟨hi.serial, hi.entered, hi.increasing, hi.within, by simp [Debouncer.cancel], hi.runs, ?_⟩
  rcases hi.latest with h0 | hp | hc | he
  · exact .inl h0
  · exact .inr (.inr (.inl (by simp [hp])))
  · exact .inr (.inr (.inl (by simp [hc])))
  · exact .inr (.inr (.inr he))

/-- The trigger of the timer comes to its turn behind all others. -/
theorem Inv.fire (hi : h.Inv) : h.fire.Inv := by
  cases ht : h.debouncer.timer with
  | none =>
    have heq : h.fire = h := by
      rw [DebouncerHistory.fire, Debouncer.fire, ht, Option.map_none, Option.toList_none,
        List.append_nil]
      exact proceed_of_not_lt rfl
    rwa [heq]
  | some t =>
    obtain ⟨htrigger, hpos, hbefore⟩ := hi.timer t ht
    have hincreasing : (h.entered ++ [t.trigger]).Pairwise (· < ·) :=
      List.pairwise_append.2 ⟨hi.increasing, List.pairwise_singleton _ _, fun n hn m hm =>
        List.mem_singleton.1 hm ▸ hbefore n hn⟩
    have hwithin : ∀ n ∈ h.entered ++ [t.trigger], 0 < n ∧ n ≤ h.debouncer.triggers := by
      intro n hn
      rcases List.mem_append.1 hn with hn | hn
      · exact hi.within n hn
      · rw [List.mem_singleton.1 hn]
        exact ⟨hpos, Nat.le_of_eq htrigger⟩
    have hlatest : h.debouncer.triggers ∈ h.entered ++ [t.trigger] :=
      List.mem_append_right _ (List.mem_singleton.2 htrigger.symm)
    have heq : h.fire = { h with entered := h.entered ++ [t.trigger] }.proceed
        ({ h.debouncer with timer := none }.enter t.trigger) := by
      rw [DebouncerHistory.fire, Debouncer.fire, ht]
      rfl
    rcases Debouncer.enter_cases t.trigger { h.debouncer with timer := none } with
      ⟨hactive, hwaiting, henter⟩ | henter
    · rw [heq, henter, proceed_start _ (by rfl)]
      obtain ⟨past, hlog⟩ := hi.serial
      refine ⟨⟨past, ?_⟩, ?_, hincreasing, hwithin, by simp [Debouncer.start], ?_,
        .inr (.inr (.inr hlatest))⟩
      · have hactive : h.debouncer.active = none := hactive
        show h.log ++ _ = _
        rw [hlog, hactive, serial_started]
        rfl
      · have hwaiting : h.debouncer.waiting = [] := hwaiting
        show h.entered ++ _ = started _ ++ h.debouncer.waiting
        rw [started, filterMap_started, hi.entered, hwaiting, List.append_nil, List.append_nil]
        rfl
      · show h.debouncer.runs + 1 = _
        rw [started, filterMap_started, hi.runs, List.length_append]
        rfl
    · rw [heq, henter, proceed_of_not_lt (by rfl)]
      refine ⟨hi.serial, ?_, hincreasing, hwithin, by simp, hi.runs, .inr (.inr (.inr hlatest))⟩
      show h.entered ++ _ = h.started ++ (h.debouncer.waiting ++ _)
      rw [hi.entered, List.append_assoc]

/-- The run that is going on is over, and no other one starts yet. -/
theorem Inv.ended (hi : h.Inv) (failed : Bool) : (h.happen (.ended failed)).Inv := by
  show (h.finish failed).Inv
  rw [finish]
  split
  · exact hi
  · next t hactive =>
    obtain ⟨past, hlog⟩ := hi.serial
    refine ⟨⟨past ++ [(t, failed)], ?_⟩, ?_, hi.increasing, hi.within, hi.timer, ?_, hi.latest⟩
    · rw [hlog, hactive, serial_over]
      rfl
    · rw [started, filterMap_over]
      exact hi.entered
    · rw [started, filterMap_over]
      exact hi.runs

/-- The run that waited longest starts, where none is going on. -/
theorem Inv.admitted (hi : h.Inv) : (h.happen .admitted).Inv := by
  show (h.proceed h.debouncer.takeNext).Inv
  rcases h.debouncer.takeNext_cases with ⟨t, ts, hactive, hwaiting, heq⟩ | heq <;> rw [heq]
  · obtain ⟨past, hlog⟩ := hi.serial
    rw [proceed_start _ (by rfl)]
    refine ⟨⟨past, ?_⟩, ?_, hi.increasing, hi.within, hi.timer, ?_, hi.latest⟩
    · rw [hlog, hactive, serial_started]
      rfl
    · rw [started, filterMap_started, List.append_assoc, hi.entered, hwaiting]
      rfl
    · show h.debouncer.runs + 1 = _
      rw [started, filterMap_started, hi.runs, List.length_append]
      rfl
  · rw [proceed_of_not_lt (by rfl)]
    exact hi

theorem Inv.happen (hi : h.Inv) (e : Event) : (h.happen e).Inv := by
  cases e with
  | trigger now => exact hi.trigger now
  | cancel => exact hi.cancel
  | flush => exact hi.fire
  | due => exact hi.fire
  | ended failed => exact hi.ended failed
  | admitted => exact hi.admitted

theorem inv_after (delay : Nat) (es : List Event) : (after delay es).Inv := by
  induction es with
  | nil => exact inv_new delay
  | cons e es ih => exact ih.happen e

/-! ## What stays -/

theorem debouncer_proceed (d : Debouncer) (h : DebouncerHistory) : (h.proceed d).debouncer = d := by
  rw [proceed]
  split <;> rfl

theorem entered_proceed (d : Debouncer) (h : DebouncerHistory) :
    (h.proceed d).entered = h.entered := by
  rw [proceed]
  split <;> rfl

theorem entered_fire (h : DebouncerHistory) :
    h.fire.entered = h.entered ++ (h.debouncer.timer.map Timer.trigger).toList :=
  entered_proceed _ _

/-- Who came to their turn stays there, whatever happens. -/
theorem entered_prefix_happen (h : DebouncerHistory) (e : Event) :
    h.entered <+: (h.happen e).entered := by
  cases e with
  | trigger now => exact (entered_proceed _ _).symm ▸ List.prefix_refl _
  | cancel => exact (entered_proceed _ _).symm ▸ List.prefix_refl _
  | flush => exact h.entered_fire ▸ List.prefix_append _ _
  | due => exact h.entered_fire ▸ List.prefix_append _ _
  | ended failed =>
    show h.entered <+: (h.finish failed).entered
    rw [finish]
    split <;> exact List.prefix_refl _
  | admitted => exact (entered_proceed _ _).symm ▸ List.prefix_refl _

theorem entered_prefix_after (delay : Nat) (es later : List Event) :
    (after delay es).entered <+: (after delay (later ++ es)).entered := by
  induction later with
  | nil => exact List.prefix_refl _
  | cons e later ih => exact ih.trans (entered_prefix_happen _ e)

/-- A debouncer counts its triggers. -/
theorem triggers_after (delay : Nat) (es : List Event) :
    (after delay es).debouncer.triggers = triggers es := by
  induction es with
  | nil => rfl
  | cons e es ih =>
    show ((after delay es).happen e).debouncer.triggers = _
    cases e with
    | trigger now => exact (congrArg _ (debouncer_proceed _ _)).trans (congrArg (· + 1) ih)
    | cancel => exact (congrArg _ (debouncer_proceed _ _)).trans ih
    | flush => exact (congrArg _ (debouncer_proceed _ _)).trans ((Debouncer.triggers_fire _).trans ih)
    | due => exact (congrArg _ (debouncer_proceed _ _)).trans ((Debouncer.triggers_fire _).trans ih)
    | ended failed =>
      show ((after delay es).finish failed).debouncer.triggers = triggers es
      rw [finish]
      split <;> exact ih
    | admitted =>
      exact (congrArg _ (debouncer_proceed _ _)).trans ((Debouncer.triggers_takeNext _).trans ih)

/-! ## What is promised -/

/-- What is promised of a debouncer to which events happened. -/
structure Orderly (delay : Nat) (es : List Event) : Prop where
  /-- no run starts before those before it are over -/
  serial : ∃ past, (after delay es).log = serial past (after delay es).debouncer.active
  /-- no two runs belong to one trigger -/
  increasing : (after delay es).started.Pairwise (· < ·)
  /-- the trigger of a run was there before it -/
  within : ∀ t ∈ (after delay es).started, 0 < t ∧ t ≤ triggers es
  runs_eq : (after delay es).debouncer.runs = (after delay es).started.length
  runs_le : (after delay es).debouncer.runs ≤ triggers es
  /-- at the end of its timer a trigger comes to its turn -/
  turn : ∀ t ∈ (after delay es).debouncer.timer,
    (after delay (.due :: es)).entered = (after delay es).entered ++ [t.trigger]
  /-- who came to their turn started or waits, and the others started before -/
  entered : (after delay es).entered =
    (after delay es).started ++ (after delay es).debouncer.waiting
  /-- and so it stays, whatever happens later -/
  lasting : ∀ later, (after delay es).entered <+: (after delay (later ++ es)).entered
  /-- neither a trigger nor a cancellation ends a run or calls off one that waits -/
  untouched : ∀ e, e = .cancel ∨ (∃ now, e = .trigger now) →
    (after delay (e :: es)).log = (after delay es).log ∧
      (after delay (e :: es)).debouncer.active = (after delay es).debouncer.active ∧
      (after delay (e :: es)).debouncer.waiting = (after delay es).debouncer.waiting
  /-- once nothing is left to happen, the run of the latest trigger has started, unless it was called
  off while its timer was running -/
  latest : triggers es ≠ 0 → (after delay es).debouncer.pending = false →
    (after delay es).debouncer.active = none → (after delay es).debouncer.waiting = [] →
    triggers es ∈ (after delay es).started ∨ (after delay es).calledOff = true

/-- **The runs of a debouncer follow one another, each belongs to a trigger of its own, and none is
lost**, in whatever order triggers, cancellations, flushes, the ends of timers and those of runs
come. -/
theorem orderly_after (delay : Nat) (es : List Event) : Orderly delay es := by
  have hi := inv_after delay es
  have hstarted : ∀ t ∈ (after delay es).started, t ∈ (after delay es).entered := fun t ht =>
    hi.entered ▸ List.mem_append_left _ ht
  have hincreasing : (after delay es).started.Pairwise (· < ·) :=
    (List.pairwise_append.1 (hi.entered ▸ hi.increasing)).1
  have hwithin : ∀ t ∈ (after delay es).started, 0 < t ∧ t ≤ triggers es := fun t ht =>
    triggers_after delay es ▸ hi.within t (hstarted t ht)
  refine ⟨hi.serial, hincreasing, hwithin, hi.runs, ?_, fun t ht => ?_, hi.entered,
    fun later => entered_prefix_after delay es later, ?_, ?_⟩
  · rw [hi.runs]
    have hsub : (after delay es).started ⊆ List.range' 1 (triggers es) := fun t ht =>
      List.mem_range'_1.2 ⟨(hwithin t ht).1, by have := (hwithin t ht).2; omega⟩
    have hnodup : (after delay es).started.Nodup := hincreasing.imp Nat.ne_of_lt
    have hle := (List.subperm_of_subset hnodup hsub).length_le
    rwa [List.length_range'] at hle
  · show (after delay es).fire.entered = _
    rw [entered_fire, ht]
    rfl
  · rintro e (rfl | ⟨now, rfl⟩)
    · simp only [after, happen_cancel, Debouncer.cancel, and_self]
    · simp only [after, happen_trigger, Debouncer.trigger, and_self]
  · intro hne hpending hactive hwaiting
    rcases hi.latest with h0 | hp | hc | he
    · exact absurd (triggers_after delay es ▸ h0) hne
    · exact absurd hp (by rw [hpending]; exact Bool.false_ne_true)
    · exact .inr hc
    · rw [hi.entered, hwaiting, List.append_nil, triggers_after] at he
      exact .inl he

/-- A run goes on while a second one waits, a third one is flushed behind it and a fourth one is called
off; the first run fails, and a fifth trigger comes before the next one goes on. -/
theorem orderly_after_queue :
    let es : List Event := [.due, .admitted, .trigger 40, .ended true, .cancel, .trigger 30, .flush,
      .trigger 20, .due, .trigger 10, .due, .trigger 0]
    (after 5 es).started = [1, 2] ∧ (after 5 es).debouncer.waiting = [3, 5] ∧
      (after 5 (.cancel :: es)).debouncer.waiting = [3, 5] ∧
      triggers es ∈ (after 5
        (.ended false :: .admitted :: .ended false :: .admitted :: .ended false :: es)).started := by
  intro es
  refine ⟨by decide +kernel, by decide +kernel, ?_, ?_⟩
  · rw [((orderly_after 5 es).untouched .cancel (.inl rfl)).2.2]
    decide +kernel
  · have hlatest := (orderly_after 5
      (.ended false :: .admitted :: .ended false :: .admitted :: .ended false :: es)).latest
        (by decide) (by decide +kernel) (by decide +kernel) (by decide +kernel)
    exact (hlatest.resolve_right (by decide +kernel))

end DebouncerHistory
end LiveText
