import LiveText.Proofs.Record.Merge
import LiveText.Registry.Basic

/-!
# What happens to a registry

A `RegistryHistory` is a registry together with what happened to it: the fetches that are running,
those that ended well, the records that were registered, and who is waiting. Anything may happen at
any time (`RegistryHistory.Step`): a load, a clear, a registration, the end of any fetch that is
running with any outcome, and the end of a wait. `Reachable` are the histories that come about.

The registry itself knows only the number of its generation and whether a fetch of it is running. A
history counts the fetches, so that it can be said which ones were started before the latest clear.
-/

set_option autoImplicit false

namespace LiveText

/-- A fetch that was started. -/
structure StartedFetch where
  /-- how many fetches were started before it -/
  number : Nat
  /-- the generation in which it was started -/
  generation : Nat
  deriving DecidableEq

/-- A fetch that ended well. -/
structure Delivery where
  number : Nat
  records : List Record
  deriving DecidableEq

/-- A registry with what happened to it. -/
structure RegistryHistory where
  registry : Registry
  /-- how many fetches were started -/
  started : Nat := 0
  /-- how many of them were started before the latest clear -/
  startedAtClear : Nat := 0
  running : List StartedFetch := []
  delivered : List Delivery := []
  /-- all records that were registered, in order -/
  registered : List Record := []
  /-- the numbers of the fetches that are waited for, once for each wait -/
  waits : List Nat := []

namespace RegistryHistory

/-! ## What may happen -/

/-- A new registry. -/
def new (shortIdLength : Int) : RegistryHistory := { registry := { shortIdLength } }

/-- A load; it may start a fetch, or wait for the one that is running. -/
def load (h : RegistryHistory) : RegistryHistory :=
  match h.registry.load with
  | (.known _, registry) => { h with registry }
  | (.joins, registry) =>
    { h with
      registry
      waits := h.waits ++ (h.running.filter (·.generation = registry.generation)).map (·.number) }
  | (.fetches generation, registry) =>
    { h with
      registry
      started := h.started + 1
      running := h.running ++ [⟨h.started, generation⟩]
      waits := h.waits ++ [h.started] }

/-- A fetch ends, and with it the waits for it. -/
def complete (f : StartedFetch) (outcome : Except FetchError (List Record)) (h : RegistryHistory) :
    RegistryHistory :=
  { h with
    registry := (h.registry.complete f.generation outcome).2
    running := h.running.filter (· ≠ f)
    delivered :=
      match outcome with
      | .ok records => ⟨f.number, records⟩ :: h.delivered
      | .error _ => h.delivered
    waits := h.waits.filter (· ≠ f.number) }

/-- The fetched records are dropped. -/
def clear (h : RegistryHistory) : RegistryHistory :=
  { h with registry := h.registry.clear, startedAtClear := h.started }

/-- Records are registered. -/
def register (rs : List Record) (h : RegistryHistory) : RegistryHistory :=
  { h with registry := h.registry.register rs, registered := h.registered ++ rs }

/-- A wait is given up. -/
def giveUp (number : Nat) (h : RegistryHistory) : RegistryHistory :=
  { h with waits := h.waits.erase number }

/-- One thing happens. -/
inductive Step (h : RegistryHistory) : RegistryHistory → Prop
  | load : Step h h.load
  /-- any fetch that is running ends, in any way -/
  | complete (f : StartedFetch) (hf : f ∈ h.running) (outcome : Except FetchError (List Record)) :
      Step h (h.complete f outcome)
  | clear : Step h h.clear
  | register (rs : List Record) : Step h (h.register rs)
  | giveUp (number : Nat) : Step h (h.giveUp number)

/-- The histories of new registries, in whatever order things happen. -/
inductive Reachable : RegistryHistory → Prop
  | new (shortIdLength : Int) : Reachable (new shortIdLength)
  | step {h k : RegistryHistory} (hr : Reachable h) (hs : Step h k) : Reachable k

end RegistryHistory
end LiveText
