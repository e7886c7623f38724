import LiveText.Sync.Debouncer

/-!
# A debouncer in time

A `DebouncerTimeline` follows a debouncer whose runs take time, each run as long as a plan says.
Nothing happens between two moments at which a timer falls due or a run ends, so time goes by in
steps from one such moment to the next.
-/

set_option autoImplicit false

namespace LiveText

/-- How a run goes. -/
structure RunPlan where
  /-- how long it takes, in milliseconds -/
  duration : Nat := 0
  fails : Bool := false

/-- What happened to a run. -/
inductive RunMark
  | started
  | ended
  | failed
  deriving DecidableEq, Repr

/-- What happened to a run, and when. -/
structure RunEvent where
  mark : RunMark
  /-- the number of the run, from one on -/
  run : Nat
  time : Nat
  deriving DecidableEq, Repr

/-- A debouncer at a moment. -/
structure DebouncerTimeline where
  /-- how the run of a number goes -/
  plan : Nat → RunPlan
  debouncer : Debouncer
  now : Nat := 0
  /-- when the run that is going on ends -/
  ends : Nat := 0
  /-- what has happened, the first event first -/
  log : List RunEvent := []

namespace DebouncerTimeline

/-- Goes on with a debouncer that may have started a run. -/
def proceed (d : Debouncer) (l : DebouncerTimeline) : DebouncerTimeline :=
  if l.debouncer.runs < d.runs then
    { l with
      debouncer := d
      ends := l.now + (l.plan d.runs).duration
      log := l.log ++ [⟨.started, d.runs, l.now⟩] }
  else { l with debouncer := d }

/-- Schedules a run. -/
def trigger (l : DebouncerTimeline) : DebouncerTimeline := l.proceed (l.debouncer.trigger l.now)

/-- Drops the run that is scheduled. -/
def cancel (l : DebouncerTimeline) : DebouncerTimeline := l.proceed l.debouncer.cancel

/-- The scheduled run is due. -/
def fire (l : DebouncerTimeline) : DebouncerTimeline := l.proceed l.debouncer.fire

/-- The run that is going on is over. -/
def finish (l : DebouncerTimeline) : DebouncerTimeline :=
  let run := l.debouncer.runs
  let event : RunEvent := ⟨if (l.plan run).fails then .failed else .ended, run, l.now⟩
  { l with log := l.log ++ [event] }.proceed l.debouncer.finish

/-- What happens next. -/
inductive Next
  | nothing
  | fires (time : Nat)
  | finishes (time : Nat)

/-- What happens next if nobody does anything. -/
def next (l : DebouncerTimeline) : Next :=
  match l.debouncer.timer, l.debouncer.active with
  | none, none => .nothing
  | some t, none => .fires t.due
  | none, some _ => .finishes l.ends
  | some t, some _ => if l.ends ≤ t.due then .finishes l.ends else .fires t.due

theorem debouncer_proceed (d : Debouncer) (l : DebouncerTimeline) :
    (l.proceed d).debouncer = d := by
  unfold proceed
  split <;> rfl

theorem pending_of_next {l : DebouncerTimeline} {time : Nat} (h : l.next = .fires time) :
    l.debouncer.pending = true := by
  unfold next at h
  unfold Debouncer.pending
  split at h
  · simp at h
  · next hs _ => simp [hs]
  · simp at h
  · next hs _ => simp [hs]

theorem running_of_next {l : DebouncerTimeline} {time : Nat} (h : l.next = .finishes time) :
    l.debouncer.running = true := by
  unfold next at h
  unfold Debouncer.running
  split at h
  · simp at h
  · simp at h
  · next hs => simp [hs]
  · next hs => simp [hs]

/-- Lets everything happen that happens up to a moment, and goes on to that moment. -/
def advance (moment : Nat) (l : DebouncerTimeline) : DebouncerTimeline :=
  match _h : l.next with
  | .nothing => { l with now := moment }
  | .fires time =>
    if time ≤ moment then { l with now := time }.fire.advance moment else { l with now := moment }
  | .finishes time =>
    if time ≤ moment then { l with now := time }.finish.advance moment else { l with now := moment }
termination_by l.debouncer.workLeft
decreasing_by
  · simp only [fire, debouncer_proceed]
    exact Debouncer.workLeft_fire (pending_of_next _h)
  · simp only [finish, debouncer_proceed]
    exact Debouncer.workLeft_finish (running_of_next _h)

/-- Lets things happen until the run of a number is over. -/
def awaitRun (run : Nat) (l : DebouncerTimeline) : DebouncerTimeline :=
  if run ≤ l.debouncer.finished then l
  else
    match _h : l.next with
    | .nothing => l
    | .fires time => { l with now := time }.fire.awaitRun run
    | .finishes time => { l with now := time }.finish.awaitRun run
termination_by l.debouncer.workLeft
decreasing_by
  · simp only [fire, debouncer_proceed]
    exact Debouncer.workLeft_fire (pending_of_next _h)
  · simp only [finish, debouncer_proceed]
    exact Debouncer.workLeft_finish (running_of_next _h)

/-- Lets everything happen that takes no time. -/
def settle (l : DebouncerTimeline) : DebouncerTimeline := l.advance l.now

/-- Runs the job that is scheduled at once and waits until that run is over; says whether one was
scheduled. -/
def flush (l : DebouncerTimeline) : Bool × DebouncerTimeline :=
  if l.debouncer.pending then
    (true, l.fire.awaitRun (l.debouncer.runs + l.debouncer.waiting.length + 1))
  else (false, l)

end DebouncerTimeline
end LiveText
