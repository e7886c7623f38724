import Mathlib.Data.Bool.Basic
import Mathlib.Data.List.Nodup
import LiveText.Proofs.Registry.Recall

/-!
# Fetches in flight

A load is answered from the registry, or by the fetch of the present generation that is running, or
by a fetch that it starts. So there is never more than one fetch of the present generation, and it
is started only where something has been lost: the registry was new, or it was cleared, or a fetch
failed.

A clear leaves the fetch that is running to itself. Such a fetch is *superseded*. When it ends well,
the registry takes no notice of it. When it fails, the registry remembers its error as the last one,
although the contents that the error is reported with may be those of a later fetch that ended well;
nothing else is changed by it.

## What is here

* `registry_complete_superseded` says what the end of a superseded fetch changes.
* `InFlight` says that the registry knows whether a fetch of its generation is running, with a step
  lemma for each event; `inFlight_after` is the run.
* `clears` and `failures` count events, `started_add_idle_le` counts the fetches against them.
* `SingleFlight` is what is promised, **`singleFlight_after`** says that it is kept.
-/

set_option autoImplicit false

namespace LiveText.RegistryHistory

/-! ## Superseded fetches -/

/-- **The end of a superseded fetch** changes nothing in the registry if the fetch ended well, and
only the last error if it failed. The fetch that superseded it goes on in either case. -/
theorem registry_complete_superseded {h : RegistryHistory} (hr : h.Reachable) {f : StartedFetch}
    (hf : f ∈ h.running) (hlt : f.number < h.startedAtClear) :
    (∀ rs, (h.complete f (.ok rs)).registry = h.registry) ∧
      (∀ e, (h.complete f (.error e)).registry = { h.registry with lastError := some e }) ∧
      ∀ outcome, ∀ g : StartedFetch, g.generation = h.registry.generation →
        (g ∈ (h.complete f outcome).running ↔ g ∈ h.running) := by
  obtain ⟨ht, -⟩ := hr.invariant
  have hgen : f.generation ≠ h.registry.generation := fun hgen =>
    Nat.not_le_of_lt hlt ((ht.generation_iff f hf).1 hgen)
  refine ⟨fun rs => if_neg hgen, fun e => if_neg hgen, fun outcome g hg => ?_⟩
  rw [mem_running_complete]
  refine and_iff_left ?_
  rintro rfl
  exact hgen hg

/-- The registry is cleared while a fetch is running, and loaded by a second fetch. When the first
one fails after that, the registry is loaded, and reports the error of a fetch that it has given
up. -/
theorem registry_complete_superseded_failure :
    let down : FetchError := { endpoint := "catalog".toList }
    let h := ((new 4).load.clear.load).complete ⟨1, 1⟩ (.ok [])
    h.registry.loaded = true ∧ h.registry.lastError = none ∧
      (h.complete ⟨0, 0⟩ (.error down)).registry.loaded = true ∧
      (h.complete ⟨0, 0⟩ (.error down)).registry.lastError = some down := by
  intro down h
  have h₁ : (new 4).load.clear.load.Reachable := .step (.step (.step (.new 4) .load) .clear) .load
  have hr : h.Reachable := h₁.step (.complete ⟨1, 1⟩ (by decide) (.ok []))
  obtain ⟨-, herror, -⟩ := registry_complete_superseded hr (f := ⟨0, 0⟩) (by decide) (by decide)
  rw [herror down]
  exact ⟨rfl, rfl, rfl, rfl⟩

/-! ## The fetch of the present generation -/

/-- What the registry knows about the fetches is so: each of them is running once, and where the
registry waits for one of its generation, there is one. -/
structure InFlight (h : RegistryHistory) : Prop where
  nodup : h.running.Nodup
  exists_running : h.registry.fetching = true →
    ∃ f ∈ h.running, f.generation = h.registry.generation

theorem inFlight_new (shortIdLength : Int) : (new shortIdLength).InFlight where
  nodup := List.nodup_nil
  exists_running := fun hf => Bool.noConfusion hf

theorem InFlight.load {h : RegistryHistory} (hi : h.InFlight) (ht : h.Tracked) :
    h.load.InFlight := by
  rcases h.load_cases with ⟨ws, hw⟩ | ⟨hloaded, hfetching⟩
  · rw [hw]
    exact ⟨hi.1, hi.2⟩
  · rw [load_of_idle hloaded hfetching]
    refine ⟨?_, fun _ => ⟨_, List.mem_append_right _ List.mem_cons_self, rfl⟩⟩
    rw [List.nodup_append]
    refine ⟨hi.nodup, List.nodup_singleton _, fun f hf g hg => ?_⟩
    -- the new fetch has a number of its own
    rintro rfl
    have hlt := ht.number_lt f hf
    rw [List.mem_singleton.1 hg] at hlt
    exact Nat.lt_irrefl _ hlt

theorem InFlight.clear {h : RegistryHistory} (hi : h.InFlight) : h.clear.InFlight where
  nodup := hi.nodup
  exists_running := fun hf => Bool.noConfusion hf

theorem InFlight.complete {h : RegistryHistory} (hi : h.InFlight) {f : StartedFetch}
    (outcome : Except FetchError (List Record)) : (h.complete f outcome).InFlight := by
  refine ⟨hi.nodup.filter _, fun hfetching => ?_⟩
  rw [registry_complete] at hfetching ⊢
  rw [Registry.generation_complete]
  by_cases hgen : f.generation = h.registry.generation
  · rw [hgen, Registry.fetching_complete] at hfetching
    exact Bool.noConfusion hfetching
  · obtain ⟨e, he⟩ := Registry.complete_of_ne hgen outcome
    rw [he] at hfetching
    obtain ⟨g, hg, hgen'⟩ := hi.exists_running hfetching
    refine ⟨g, mem_running_complete.2 ⟨hg, ?_⟩, hgen'⟩
    rintro rfl
    exact hgen hgen'

theorem inFlight_after (n : Int) (es : List Event) : (after n es).InFlight := by
  induction es with
  | nil => exact inFlight_new n
  | cons e es ih =>
    cases e with
    | load => exact ih.load (reachable_after n es).invariant.1
    | answered f outcome =>
      rw [after, happen]
      split
      · exact ih.complete _
      · exact ih
    | clear => exact ih.clear
    | register rs => exact ⟨ih.1, ih.2⟩
    | giveUp number => exact ⟨ih.1, ih.2⟩

/-- The fetches of the present generation that are running. -/
def current (h : RegistryHistory) : List StartedFetch :=
  h.running.filter (·.generation = h.registry.generation)

/-- The fetch of the present generation, if one is running, is the only one. -/
theorem current_eq {h : RegistryHistory} (ht : h.Tracked) (hi : h.InFlight) {f : StartedFetch}
    (hf : f ∈ h.running) (hgen : f.generation = h.registry.generation) : h.current = [f] := by
  have hsame : ∀ g ∈ h.running, decide (g.generation = h.registry.generation) = decide (g = f) := by
    intro g hg
    rw [decide_eq_decide]
    exact ⟨fun hgen' => ht.unique g hg f hf hgen' hgen, fun hgf => hgf ▸ hgen⟩
  rw [current, List.filter_congr hsame, List.filter_eq, List.count_eq_one_of_mem hi.nodup hf]
  rfl

theorem load_of_fetching {h : RegistryHistory} (hloaded : h.registry.loaded = false)
    (hfetching : h.registry.fetching = true) :
    h.load = { h with waits := h.waits ++ h.current.map (·.number) } := by
  rw [load, Registry.load_of_fetching hloaded hfetching]
  rfl

/-! ## Counting the fetches -/

/-- How often the registry was cleared. -/
def clears : List Event → Nat
  | [] => 0
  | .clear :: es => clears es + 1
  | _ :: es => clears es

/-- How many fetches failed, of whatever generation. -/
def failures (shortIdLength : Int) : List Event → Nat
  | [] => 0
  | .answered f outcome :: es =>
    match FetchOutcome.records outcome with
    | .ok _ => failures shortIdLength es
    | .error _ =>
      if f ∈ (after shortIdLength es).running then failures shortIdLength es + 1
      else failures shortIdLength es
  | _ :: es => failures shortIdLength es

/-- Whether the next load starts a fetch. -/
def idle (h : RegistryHistory) : Bool := !h.registry.loaded && !h.registry.fetching

theorem idle_iff {h : RegistryHistory} :
    h.idle = true ↔ h.registry.loaded = false ∧ h.registry.fetching = false := by
  simp [idle]

/-- A load starts a fetch in an idle registry, and no registry is idle after a load. -/
theorem started_load (h : RegistryHistory) :
    h.load.started = h.started + h.idle.toNat ∧ h.load.idle = false := by
  cases hidle : h.idle with
  | true =>
    obtain ⟨hloaded, hfetching⟩ := idle_iff.1 hidle
    rw [load_of_idle hloaded hfetching]
    refine ⟨rfl, ?_⟩
    simp [idle]
  | false =>
    rcases h.load_cases with ⟨ws, hw⟩ | hboth
    · rw [hw]
      exact ⟨rfl, hidle⟩
    · rw [idle_iff.2 hboth] at hidle
      exact Bool.noConfusion hidle

/-- A fetch that ends well leaves no registry idle that was not. -/
theorem idle_complete_ok {h : RegistryHistory} (f : StartedFetch) (rs : List Record) :
    (h.complete f (.ok rs)).idle = true → h.idle = true := by
  rw [idle_iff, registry_complete]
  by_cases hgen : f.generation = h.registry.generation
  · rw [hgen, Registry.complete_ok]
    exact fun hboth => Bool.noConfusion hboth.1
  · obtain ⟨e, he⟩ := Registry.complete_of_ne hgen (.ok rs)
    rw [he, idle_iff]
    exact id

/-- What the end of a fetch adds to the count of failures. -/
theorem failures_answered (n : Int) {es : List Event} {f : StartedFetch} {outcome : FetchOutcome}
    {e : FetchError} (hf : f ∈ (after n es).running)
    (herror : FetchOutcome.records outcome = .error e) :
    failures n (.answered f outcome :: es) = failures n es + 1 := by
  rw [failures, herror]
  exact if_pos hf

theorem failures_le_answered (n : Int) (es : List Event) (f : StartedFetch)
    (outcome : FetchOutcome) : failures n es ≤ failures n (.answered f outcome :: es) := by
  rw [failures]
  split
  · exact Nat.le_refl _
  · split
    · exact Nat.le_succ _
    · exact Nat.le_refl _

/-- Every fetch that was started, and the one that the next load would start, follows on the creation
of the registry, a clear, or a failure. -/
theorem started_add_idle_le (n : Int) (es : List Event) :
    (after n es).started + (after n es).idle.toNat ≤ 1 + clears es + failures n es := by
  induction es with
  | nil => exact Nat.le_refl 1
  | cons e es ih =>
    cases e with
    | load =>
      obtain ⟨hstarted, hidle⟩ := (after n es).started_load
      change (after n es).load.started + (after n es).load.idle.toNat ≤ 1 + clears es + failures n es
      rw [hstarted, hidle]
      exact ih
    | answered f outcome =>
      have hmore := failures_le_answered n es f outcome
      change _ ≤ 1 + clears es + failures n (.answered f outcome :: es)
      by_cases hf : f ∈ (after n es).running
      · have hafter : after n (.answered f outcome :: es) =
            (after n es).complete f (FetchOutcome.records outcome) := if_pos hf
        have hstarted : (after n (.answered f outcome :: es)).started = (after n es).started := by
          rw [hafter]
          rfl
        cases hends : FetchOutcome.records outcome with
        | ok rs =>
          have hidle := Bool.toNat_le_toNat ((after n es).idle_complete_ok f rs)
          rw [hstarted, hafter, hends]
          omega
        | error e =>
          -- the failure makes up for the fetch that the next load starts
          have hone := Bool.toNat_le (after n (.answered f outcome :: es)).idle
          rw [hstarted, failures_answered n hf hends]
          omega
      · have hafter : after n (.answered f outcome :: es) = after n es := if_neg hf
        rw [hafter]
        omega
    | clear =>
      have hone := Bool.toNat_le (after n (.clear :: es)).idle
      change (after n es).started + _ ≤ 1 + (clears es + 1) + failures n es
      omega
    | register rs => exact ih
    | giveUp number => exact ih

/-! ## Single flight -/

/-- What is promised of the fetches of a registry. -/
structure SingleFlight (n : Int) (es : List Event) : Prop where
  /-- at most one fetch of the present generation is running -/
  alone : (after n es).current.length ≤ 1
  /-- a load that is made while it is running waits for it and does nothing else -/
  joins : ∀ f ∈ (after n es).running, f.generation = (after n es).registry.generation →
    after n (.load :: es) = { after n es with waits := (after n es).waits ++ [f.number] }
  /-- a load of a registry that is loaded does nothing at all -/
  rests : (after n es).registry.loaded = true → after n (.load :: es) = after n es
  /-- every other load starts a fetch -/
  starts : (after n es).registry.loaded = false →
    (∀ f ∈ (after n es).running, f.generation ≠ (after n es).registry.generation) →
      (after n (.load :: es)).started = (after n es).started + 1
  /-- who gives up waiting leaves the registry and its fetches as they are -/
  giveUp : ∀ number, ∃ ws, after n (.giveUp number :: es) = { after n es with waits := ws }
  /-- every fetch but the first follows on a clear or a failure -/
  started_le : (after n es).started ≤ 1 + clears es + failures n es

/-- **A registry makes one fetch at a time, and none that it does not need**, in whatever order things
happen to it. -/
theorem singleFlight_after (n : Int) (es : List Event) : SingleFlight n es := by
  obtain ⟨ht, -⟩ := (reachable_after n es).invariant
  have hi := inFlight_after n es
  refine ⟨?_, fun f hf hgen => ?_, fun hl => ?_, fun hl hnone => ?_, fun number => ⟨_, rfl⟩, ?_⟩
  · cases hcurrent : (after n es).current with
    | nil => exact Nat.zero_le 1
    | cons f fs =>
      obtain ⟨hf, hgen⟩ := List.mem_filter.1 (hcurrent ▸ List.mem_cons_self)
      rw [← hcurrent, current_eq ht hi hf (of_decide_eq_true hgen)]
      exact Nat.le_refl 1
  · change (after n es).load = _
    rw [load_of_fetching (ht.unloaded hf hgen) (ht.fetching f hf hgen), current_eq ht hi hf hgen]
    rfl
  · change (after n es).load = _
    rw [load, Registry.load_of_loaded hl]
  · have hidle : (after n es).idle = true := by
      refine idle_iff.2 ⟨hl, ?_⟩
      rw [Bool.eq_false_iff]
      intro hfetching
      obtain ⟨f, hf, hgen⟩ := hi.exists_running hfetching
      exact hnone f hf hgen
    have hstarted := (after n es).started_load.1
    rw [hidle] at hstarted
    exact hstarted
  · exact Nat.le_of_add_right_le (started_add_idle_le n es)

/-- A clear overtakes a fetch that is waited for; the next one fails, the first one fails after it,
and the third one is joined. As many fetches are started as may be. -/
theorem singleFlight_after_failures :
    let down : FetchOutcome := .error { endpoint := "catalog".toList }
    let es : List Event :=
      [.load, .giveUp 2, .load, .answered ⟨0, 0⟩ down, .answered ⟨1, 1⟩ down, .load, .clear, .load]
    (after 4 es).started = 3 ∧ (after 4 es).started ≤ 1 + clears es + failures 4 es ∧
      (after 4 (.load :: es)).waits = [2, 2] := by
  intro down es
  have h := singleFlight_after 4 es
  refine ⟨by decide +kernel, h.started_le, ?_⟩
  rw [h.joins ⟨2, 1⟩ (by decide +kernel) (by decide +kernel)]
  decide +kernel

end LiveText.RegistryHistory
