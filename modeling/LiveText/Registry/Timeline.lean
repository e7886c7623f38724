import LiveText.Registry.Basic

/-!
# A registry in time

A `RegistryTimeline` follows a registry whose catalog takes its time. A fetch gets what the catalog
holds when it is started and brings it when its delay is over; those who wait for it get the records
then. A wait has a name under which its result is asked for, and it may be given up, which does not
stop the fetch.
-/

set_option autoImplicit false

namespace LiveText

/-- What a catalog answers to a fetch that is started now. -/
structure Supply where
  entries : List Value := []
  /-- why the fetch fails, if it does -/
  failure : Option FetchError := none
  /-- how long the fetch takes, in milliseconds -/
  delay : Nat := 0

/-- What a fetch that is started now ends with. -/
def Supply.outcome (s : Supply) : FetchOutcome :=
  match s.failure with
  | some e => .error e
  | none => .ok s.entries

/-- A fetch that is running. -/
structure RunningFetch where
  /-- the number of the fetch, from one on -/
  number : Nat
  generation : Nat
  /-- when it ends -/
  due : Nat
  outcome : FetchOutcome

/-- What a load waits for. -/
inductive Wait
  /-- nothing: these are the records -/
  | over (records : List Record)
  /-- the fetch of a number -/
  | forFetch (number : Nat)

/-- A registry at a moment. -/
structure RegistryTimeline where
  registry : Registry
  supply : Supply := {}
  now : Nat := 0
  /-- how many fetches were started -/
  fetches : Nat := 0
  /-- the fetches that are running, in the order in which they were started -/
  running : List RunningFetch := []
  /-- the waits that have not been asked for yet -/
  waits : List (Text × Wait) := []

namespace RegistryTimeline

/-! ## The end of a fetch -/

/-- The fetch that ends first; of several the one that was started first. -/
def earliest : List RunningFetch → Option RunningFetch
  | [] => none
  | f :: fs =>
    match earliest fs with
    | none => some f
    | some g => if f.due ≤ g.due then some f else some g

/-- The waits for a fetch that has brought records are over. -/
def endWaits (number : Nat) (records : List Record) (waits : List (Text × Wait)) :
    List (Text × Wait) :=
  waits.map fun (name, w) =>
    match w with
    | .forFetch n => if n = number then (name, .over records) else (name, w)
    | .over rs => (name, .over rs)

/-- A fetch ends; gives the records that it brings. -/
def finish (f : RunningFetch) (l : RegistryTimeline) : List Record × RegistryTimeline :=
  let (records, registry) := l.registry.complete f.generation (FetchOutcome.records f.outcome)
  (records,
    { l with
      registry
      now := max l.now f.due
      running := l.running.filter (·.number != f.number)
      waits := endWaits f.number records l.waits })

theorem mem_of_earliest {fs : List RunningFetch} {f : RunningFetch} (h : earliest fs = some f) :
    f ∈ fs := by
  induction fs generalizing f with
  | nil => simp [earliest] at h
  | cons g gs ih =>
    simp only [earliest] at h
    split at h
    · simp only [Option.some.injEq] at h; simp [h]
    · next k hk =>
      split at h
      · simp only [Option.some.injEq] at h; simp [h]
      · simp only [Option.some.injEq] at h
        exact List.mem_cons_of_mem _ (h ▸ ih hk)

/-- A fetch that ends is not running any more. -/
theorem length_running_finish {f : RunningFetch} {l : RegistryTimeline} (h : f ∈ l.running) :
    (l.finish f).2.running.length < l.running.length := by
  have hne : f ∉ (l.finish f).2.running := by simp [finish]
  have hsub : (l.finish f).2.running.Sublist l.running := List.filter_sublist
  exact Nat.lt_of_le_of_ne hsub.length_le fun heq => hne (hsub.eq_of_length heq ▸ h)

/-! ## Time -/

/-- Lets every fetch end that ends up to a moment, and goes on to that moment. -/
def advance (moment : Nat) (l : RegistryTimeline) : RegistryTimeline :=
  match _h : earliest l.running with
  | none => { l with now := moment }
  | some f => if f.due ≤ moment then (l.finish f).2.advance moment else { l with now := moment }
termination_by l.running.length
decreasing_by exact length_running_finish (mem_of_earliest _h)

/-- Lets fetches end until the one of a number has ended; gives the records that it brings. -/
def awaitFetch (number : Nat) (l : RegistryTimeline) : List Record × RegistryTimeline :=
  match _h : earliest l.running with
  | none => ([], l)
  | some f => if f.number = number then l.finish f else (l.finish f).2.awaitFetch number
termination_by l.running.length
decreasing_by exact length_running_finish (mem_of_earliest _h)

/-- Lets everything happen that takes no time. -/
def settle (l : RegistryTimeline) : RegistryTimeline := l.advance l.now

/-! ## Loads -/

/-- Starts a load; says what it waits for. -/
def start (l : RegistryTimeline) : Wait × RegistryTimeline :=
  match l.registry.load with
  | (.known records, registry) => (.over records, { l with registry })
  | (.joins, registry) =>
    match l.running.find? (·.generation == registry.generation) with
    | some f => (.forFetch f.number, { l with registry })
    | none => (.over registry.records, { l with registry })
  | (.fetches generation, registry) =>
    let number := l.fetches + 1
    let f : RunningFetch := ⟨number, generation, l.now + l.supply.delay, l.supply.outcome⟩
    (.forFetch number, { l with registry, fetches := number, running := l.running ++ [f] })

/-- Waits until a load is over; gives its records. -/
def await (w : Wait) (l : RegistryTimeline) : List Record × RegistryTimeline :=
  match w with
  | .over records => (records, l)
  | .forFetch number => l.awaitFetch number

/-- Loads the registry. -/
def load (l : RegistryTimeline) : List Record × RegistryTimeline :=
  let (w, l) := l.start
  l.await w

/-! ## Waits with names -/

/-- Starts a load; its result is asked for under a name. -/
def startAs (name : Text) (l : RegistryTimeline) : RegistryTimeline :=
  let (w, l) := l.start
  { l with waits := (name, w) :: l.waits.filter (·.1 != name) }

/-- The wait of a name, which has no name any more. -/
def takeWait (name : Text) (l : RegistryTimeline) : Option (Wait × RegistryTimeline) :=
  (l.waits.find? (·.1 == name)).map fun (_, w) =>
    (w, { l with waits := l.waits.filter (·.1 != name) })

/-- Waits for the load of a name; there may be none. -/
def awaitNamed (name : Text) (l : RegistryTimeline) : Option (List Record × RegistryTimeline) :=
  (l.takeWait name).map fun (w, l) => l.await w

/-- Gives up the wait of a name, if there is one; says whether it was still waiting. -/
def giveUp (name : Text) (l : RegistryTimeline) : Option (Bool × RegistryTimeline) :=
  (l.takeWait name).map fun (w, l) =>
    match w with
    | .over _ => (false, l)
    | .forFetch _ => (true, l)

/-! ## The registry itself -/

/-- Drops the fetched records. -/
def clear (l : RegistryTimeline) : RegistryTimeline := { l with registry := l.registry.clear }

/-- Adds local records; gives the number of new ones. -/
def register (rs : List Record) (l : RegistryTimeline) : Nat × RegistryTimeline :=
  (l.registry.newLocals rs, { l with registry := l.registry.register rs })

end RegistryTimeline
end LiveText
