import Mathlib.Data.List.Nodup
import LiveText.Proofs.Registry.Flight
import LiveText.Registry.Timeline

/-!
# Timelines are runs of events

In a `RegistryTimeline` every fetch has the moment at which it ends and the outcome that it ends
with, so the order in which things happen follows from the delays. In a `RegistryHistory` they happen
in any order. A timeline `Follows` a history if the registry is the same and the same fetches are
running. Whatever is done with a timeline, there is a sequence of events after which a history is
followed (`exists_after_of_reachable`); so what holds of a registry after every sequence of events
holds of every timeline. For instance, a load that joins a fetch finds it running (`start_of_fetching`).
-/

set_option autoImplicit false

namespace LiveText

open RegistryHistory

/-- A running fetch as a history knows it, which counts fetches from zero on. -/
def RunningFetch.started (f : RunningFetch) : StartedFetch := ⟨f.number - 1, f.generation⟩

namespace RegistryTimeline

/-! ## Following a history -/

/-- The registry is that of the history, and the same fetches are running. -/
structure Follows (l : RegistryTimeline) (h : RegistryHistory) : Prop where
  registry : h.registry = l.registry
  started : h.started = l.fetches
  running : h.running = l.running.map RunningFetch.started
  number : ∀ f ∈ l.running, 0 < f.number ∧ f.number ≤ l.fetches
  nodup : (l.running.map (·.number)).Nodup

variable {n : Int} {es : List Event} {l l' : RegistryTimeline}

/-- A timeline without fetches follows a new registry. -/
theorem follows_new (n : Int) (s : Supply) :
    Follows { registry := { shortIdLength := n }, supply := s } (after n []) where
  registry := rfl
  started := rfl
  running := rfl
  number := fun _ hf => absurd hf List.not_mem_nil
  nodup := List.nodup_nil

/-- Time, supply and waits do not matter to a history. -/
theorem Follows.of_eq {h : RegistryHistory} (hl : l.Follows h) (hregistry : l'.registry = l.registry)
    (hfetches : l'.fetches = l.fetches) (hrunning : l'.running = l.running) : l'.Follows h := by
  obtain ⟨h₁, h₂, h₃, h₄, h₅⟩ := hl
  rw [← hregistry] at h₁
  rw [← hrunning] at h₃ h₄ h₅
  rw [← hfetches] at h₂ h₄
  exact ⟨h₁, h₂, h₃, h₄, h₅⟩

/-- A load that starts no fetch changes nothing. -/
theorem start_eq_self (h : ¬(l.registry.loaded = false ∧ l.registry.fetching = false)) :
    l.start.2 = l := by
  rw [start]
  cases hloaded : l.registry.loaded with
  | true => rw [Registry.load_of_loaded hloaded]
  | false =>
    have hfetching : l.registry.fetching = true := by simpa [hloaded] using h
    rw [Registry.load_of_fetching hloaded hfetching]
    dsimp only
    split
    · rfl
    · rfl

theorem start_of_idle (hloaded : l.registry.loaded = false) (hfetching : l.registry.fetching = false) :
    l.start.2 = { l with
      registry := { l.registry with fetching := true }
      fetches := l.fetches + 1
      running := l.running ++
        [⟨l.fetches + 1, l.registry.generation, l.now + l.supply.delay, l.supply.outcome⟩] } := by
  rw [start, Registry.load_of_idle hloaded hfetching]

theorem Follows.start (hl : l.Follows (after n es)) :
    l.start.2.Follows (after n (.load :: es)) := by
  change l.start.2.Follows (after n es).load
  by_cases hidle : l.registry.loaded = false ∧ l.registry.fetching = false
  · obtain ⟨hloaded, hfetching⟩ := hidle
    rw [start_of_idle hloaded hfetching, load_of_idle (hl.registry ▸ hloaded) (hl.registry ▸ hfetching)]
    refine ⟨by rw [hl.registry], by rw [hl.started], ?_, fun f hf => ?_, ?_⟩
    · rw [hl.running, hl.started, hl.registry, List.map_append]
      rfl
    · rcases List.mem_append.1 hf with hf | hf
      · exact ⟨(hl.number f hf).1, Nat.le_succ_of_le (hl.number f hf).2⟩
      · rw [List.mem_singleton.1 hf]
        exact ⟨Nat.succ_pos _, Nat.le_refl _⟩
    · -- the new number is greater than all others
      rw [List.map_append, List.nodup_append]
      refine ⟨hl.nodup, List.nodup_singleton _, fun m hm k hk => ?_⟩
      obtain ⟨f, hf, rfl⟩ := List.mem_map.1 hm
      rw [List.mem_singleton.1 hk]
      exact Nat.ne_of_lt (Nat.lt_succ_of_le (hl.number f hf).2)
  · obtain ⟨ws, hload⟩ := (load_cases _).resolve_right (hl.registry.symm ▸ hidle)
    rw [start_eq_self hidle, hload]
    exact ⟨hl.registry, hl.started, hl.running, hl.number, hl.nodup⟩

/-- The end of a running fetch is the event that it is answered. -/
theorem Follows.finish (hl : l.Follows (after n es)) {f : RunningFetch} (hf : f ∈ l.running) :
    (l.finish f).2.Follows (after n (.answered f.started f.outcome :: es)) := by
  have hmem : f.started ∈ (after n es).running := hl.running ▸ List.mem_map_of_mem hf
  have hafter : after n (.answered f.started f.outcome :: es) =
      (after n es).complete f.started (FetchOutcome.records f.outcome) := if_pos hmem
  have hsub : ∀ g, g ∈ (l.finish f).2.running → g ∈ l.running := fun g hg => (List.mem_filter.1 hg).1
  rw [hafter]
  refine ⟨?_, hl.started, ?_, fun g hg => hl.number g (hsub g hg),
    hl.nodup.sublist (List.filter_sublist.map _)⟩
  · rw [registry_complete, hl.registry]
    rfl
  · have hsame : ∀ g ∈ l.running, decide (g.started ≠ f.started) = (g.number != f.number) := by
      intro g hg
      rw [Bool.eq_iff_iff, decide_eq_true_eq, bne_iff_ne, not_iff_not]
      constructor
      · intro heq
        have hnumber : g.number - 1 = f.number - 1 := congrArg StartedFetch.number heq
        have hpos := (hl.number g hg).1
        have hpos' := (hl.number f hf).1
        omega
      · intro heq
        rw [List.inj_on_of_nodup_map hl.nodup hg hf heq]
    calc (after n es).running.filter (· ≠ f.started)
      _ = (l.running.map RunningFetch.started).filter (· ≠ f.started) := by rw [hl.running]
      _ = (l.running.filter (·.number != f.number)).map RunningFetch.started := by
        rw [List.filter_map, ← List.filter_congr hsame]
        rfl

/-! ## Letting fetches end -/

theorem Follows.advance (hl : l.Follows (after n es)) (moment : Nat) :
    ∃ es', (l.advance moment).Follows (after n es') := by
  fun_induction RegistryTimeline.advance moment l generalizing es with
  | case1 l h => exact ⟨es, hl.of_eq rfl rfl rfl⟩
  | case2 l f h hdue ih => exact ih (hl.finish (mem_of_earliest h))
  | case3 l f h hdue => exact ⟨es, hl.of_eq rfl rfl rfl⟩

theorem Follows.awaitFetch (hl : l.Follows (after n es)) (number : Nat) :
    ∃ es', (l.awaitFetch number).2.Follows (after n es') := by
  fun_induction RegistryTimeline.awaitFetch number l generalizing es with
  | case1 l h => exact ⟨es, hl⟩
  | case2 l f h hnumber => exact ⟨_, hl.finish (mem_of_earliest h)⟩
  | case3 l f h hnumber ih => exact ih (hl.finish (mem_of_earliest h))

theorem Follows.await (hl : l.Follows (after n es)) (w : Wait) :
    ∃ es', (l.await w).2.Follows (after n es') := by
  rcases w with records | number
  · exact ⟨es, hl⟩
  · exact hl.awaitFetch number

/-! ## What is done with a timeline -/

/-- One thing is done. -/
inductive Step (l : RegistryTimeline) : RegistryTimeline → Prop
  /-- the catalog holds something else, fails, or takes another time -/
  | supply (s : Supply) : Step l { l with supply := s }
  | start : Step l l.start.2
  | await (w : Wait) : Step l (l.await w).2
  | advance (moment : Nat) : Step l (l.advance moment)
  /-- a wait is given a name, or its name is forgotten -/
  | name (waits : List (Text × Wait)) : Step l { l with waits }
  | clear : Step l l.clear
  | register (rs : List Record) : Step l (l.register rs).2

/-- The timelines of a new registry. -/
inductive Reachable (n : Int) : RegistryTimeline → Prop
  | new (s : Supply) : Reachable n { registry := { shortIdLength := n }, supply := s }
  | step {l l' : RegistryTimeline} (hr : Reachable n l) (hs : Step l l') : Reachable n l'

theorem Step.exists_follows (hs : l.Step l') (hl : l.Follows (after n es)) :
    ∃ es', l'.Follows (after n es') := by
  cases hs with
  | supply s => exact ⟨es, hl.of_eq rfl rfl rfl⟩
  | start => exact ⟨_, hl.start⟩
  | await w => exact hl.await w
  | advance moment => exact hl.advance moment
  | name waits => exact ⟨es, hl.of_eq rfl rfl rfl⟩
  | clear =>
    obtain ⟨h₁, h₂, h₃, h₄, h₅⟩ := hl
    exact ⟨.clear :: es, congrArg Registry.clear h₁, h₂, h₃, h₄, h₅⟩
  | register rs =>
    obtain ⟨h₁, h₂, h₃, h₄, h₅⟩ := hl
    exact ⟨.register rs :: es, congrArg (Registry.register rs) h₁, h₂, h₃, h₄, h₅⟩

/-- **A timeline follows what happens to a registry after some sequence of events.** -/
theorem exists_after_of_reachable (hr : Reachable n l) : ∃ es, l.Follows (after n es) := by
  induction hr with
  | new s => exact ⟨[], follows_new n s⟩
  | step _ hs ih =>
    obtain ⟨es, hl⟩ := ih
    exact hs.exists_follows hl

/-- A load that joins a fetch waits for one that is running. -/
theorem start_of_fetching (hr : Reachable n l) (hloaded : l.registry.loaded = false)
    (hfetching : l.registry.fetching = true) :
    ∃ f ∈ l.running, f.generation = l.registry.generation ∧ l.start = (.forFetch f.number, l) := by
  obtain ⟨es, hl⟩ := exists_after_of_reachable hr
  obtain ⟨g, hg, hgen⟩ := (inFlight_after n es).exists_running (hl.registry ▸ hfetching)
  rw [hl.running] at hg
  obtain ⟨f, hf, rfl⟩ := List.mem_map.1 hg
  have hcurrent : (f.generation == l.registry.generation) = true := by
    rw [← hl.registry, ← hgen]
    exact beq_self_eq_true _
  cases hfind : l.running.find? (·.generation == l.registry.generation) with
  | none => exact absurd hcurrent (by simpa using List.find?_eq_none.1 hfind f hf)
  | some k =>
    refine ⟨k, List.mem_of_find?_eq_some hfind, by simpa using List.find?_some hfind, ?_⟩
    rw [start, Registry.load_of_fetching hloaded hfetching]
    dsimp only
    rw [hfind]

/-! ## Loads and waits with names

Each of them is made of the steps above. -/

theorem Reachable.load (hr : Reachable n l) : Reachable n l.load.2 :=
  (hr.step .start).step (.await _)

theorem Reachable.startAs (hr : Reachable n l) (name : Text) : Reachable n (l.startAs name) :=
  (hr.step .start).step (.name _)

theorem Reachable.takeWait (hr : Reachable n l) {name : Text} {q : Wait × RegistryTimeline}
    (h : l.takeWait name = some q) : Reachable n q.2 := by
  obtain ⟨⟨_, w⟩, -, rfl⟩ := Option.map_eq_some_iff.1 h
  exact hr.step (.name _)

theorem Reachable.awaitNamed (hr : Reachable n l) {name : Text} {q : List Record × RegistryTimeline}
    (h : l.awaitNamed name = some q) : Reachable n q.2 := by
  obtain ⟨⟨w, k⟩, hk, rfl⟩ := Option.map_eq_some_iff.1 h
  exact (hr.takeWait hk).step (.await w)

theorem Reachable.giveUp (hr : Reachable n l) {name : Text} {q : Bool × RegistryTimeline}
    (h : l.giveUp name = some q) : Reachable n q.2 := by
  obtain ⟨⟨w, k⟩, hk, rfl⟩ := Option.map_eq_some_iff.1 h
  rcases w with records | number
  · exact hr.takeWait hk
  · exact hr.takeWait hk

end RegistryTimeline
end LiveText
