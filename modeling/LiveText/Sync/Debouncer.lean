/-!
# Debouncers

A debouncer runs a job once when triggers stop coming. Every trigger restarts its timer, so that a
burst of triggers comes down to one run. A run that has started is never called off; a run that
falls due meanwhile waits until those before it are over.

A run belongs to the trigger that scheduled it, and triggers are numbered from one on. A
`Debouncer` is where all this stands at one moment; every operation is a function from one moment to
the next, and time is only there in the moments at which timers are due.

The end of a run (`release`) and the start of the next one (`takeNext`) are apart: a run that comes to
its turn in between waits behind those that wait already.
-/

set_option autoImplicit false

namespace LiveText

/-- A run that is scheduled. -/
structure Timer where
  /-- the trigger that scheduled it -/
  trigger : Nat
  /-- when it falls due, in milliseconds -/
  due : Nat
  deriving DecidableEq, Repr

/-- The state of a debouncer. -/
structure Debouncer where
  /-- how long a timer runs, in milliseconds -/
  delay : Nat
  /-- how many triggers there were -/
  triggers : Nat := 0
  timer : Option Timer := none
  /-- the triggers whose runs wait until others are over, the next one first -/
  waiting : List Nat := []
  /-- the trigger whose run is going on -/
  active : Option Nat := none
  /-- how many runs have started -/
  runs : Nat := 0
  deriving DecidableEq, Repr

namespace Debouncer

/-- A run is scheduled. -/
def pending (d : Debouncer) : Bool := d.timer.isSome

/-- A run is going on. -/
def running (d : Debouncer) : Bool := d.active.isSome

/-- How many runs are over. -/
def finished (d : Debouncer) : Nat := if d.running then d.runs - 1 else d.runs

/-- Schedules a run; one that was scheduled before is dropped. -/
def trigger (now : Nat) (d : Debouncer) : Debouncer :=
  { d with triggers := d.triggers + 1, timer := some ⟨d.triggers + 1, now + d.delay⟩ }

/-- Drops the run that is scheduled. -/
def cancel (d : Debouncer) : Debouncer := { d with timer := none }

/-- Starts the run of a trigger. -/
def start (trigger : Nat) (d : Debouncer) : Debouncer :=
  { d with active := some trigger, runs := d.runs + 1 }

/-- A run comes to its turn: it starts, or waits until those before it are over. -/
def enter (trigger : Nat) (d : Debouncer) : Debouncer :=
  if d.active.isNone && d.waiting.isEmpty then d.start trigger
  else { d with waiting := d.waiting ++ [trigger] }

/-- The scheduled run is due. -/
def fire (d : Debouncer) : Debouncer :=
  match d.timer with
  | none => d
  | some t => { d with timer := none }.enter t.trigger

/-- The run that is going on is over. -/
def release (d : Debouncer) : Debouncer := { d with active := none }

/-- The next run that waits starts, unless one is going on. -/
def takeNext (d : Debouncer) : Debouncer :=
  match d.active, d.waiting with
  | none, t :: ts => { d with waiting := ts }.start t
  | _, _ => d

/-- The run that is going on is over, and the next one that waits starts. -/
def finish (d : Debouncer) : Debouncer := d.release.takeNext

/-- What is left to happen, counted so that firing and finishing each leave less. -/
def workLeft (d : Debouncer) : Nat :=
  (if d.pending then 3 else 0) + 2 * d.waiting.length + (if d.running then 1 else 0)

theorem workLeft_fire {d : Debouncer} (h : d.pending = true) : d.fire.workLeft < d.workLeft := by
  obtain ⟨delay, triggers, timer, waiting, active, runs⟩ := d
  obtain ⟨t, rfl⟩ := Option.isSome_iff_exists.1 h
  cases active with
  | none =>
    cases waiting <;> simp [fire, enter, start, workLeft, pending, running]
    omega
  | some n =>
    simp [fire, enter, workLeft, pending, running]
    omega

theorem workLeft_finish {d : Debouncer} (h : d.running = true) :
    d.finish.workLeft < d.workLeft := by
  obtain ⟨delay, triggers, timer, waiting, active, runs⟩ := d
  simp only [running] at h
  cases waiting with
  | nil => cases timer <;> simp [finish, release, takeNext, workLeft, pending, running, h]
  | cons t ts =>
    cases timer <;>
      simp only [finish, release, takeNext, start, workLeft, pending, running, h, List.length_cons,
        Option.isSome_some, Option.isSome_none, Bool.false_eq_true, if_true, if_false] <;>
      omega

end Debouncer
end LiveText
