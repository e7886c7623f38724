import LiveText.Proofs.Registry.History

/-!
# The contents of a registry are coherent

Whatever happens to a registry, and in whatever order: once it is loaded, its records are those of
the one fetch that was started and ended well since the latest clear, merged with all records that
were registered. A fetch that was started before that clear changes none of this when it ends.

The invariant behind this has two halves. `RegistryHistory.Tracked` says which fetches are running:
at most one of the present generation, and only while the registry is not loaded; and a fetch is of
the present generation if and only if it was started since the latest clear. `RegistryHistory.Sound`
says what the registry holds.

## What is here

* `Tracked` and `Sound` with their step lemmas, one for each thing that may happen;
  `Reachable.invariant` is the run.
* `Coherent` is what is promised, **`coherent_of_reachable`** says that it is kept.
-/

set_option autoImplicit false

namespace LiveText

/-! ## Steps of a registry -/

namespace Registry

theorem load_of_loaded {g : Registry} (h : g.loaded = true) : g.load = (.known g.records, g) := by
  rw [load, if_pos h]

theorem load_of_fetching {g : Registry} (h : g.loaded = false) (hf : g.fetching = true) :
    g.load = (.joins, g) := by
  rw [load, if_neg (by simp [h]), if_pos hf]

theorem load_of_idle {g : Registry} (h : g.loaded = false) (hf : g.fetching = false) :
    g.load = (.fetches g.generation, { g with fetching := true }) := by
  rw [load, if_neg (by simp [h]), if_neg (by simp [hf])]

/-- A fetch of an older generation changes no more than the last error. -/
theorem complete_of_ne {g : Registry} {generation : Nat} (h : generation ≠ g.generation)
    (outcome : Except FetchError (List Record)) :
    ∃ e, (g.complete generation outcome).2 = { g with lastError := e } := by
  cases outcome with
  | ok rs => exact ⟨g.lastError, by rw [complete, succeed]; exact if_neg h⟩
  | error e => exact ⟨some e, by rw [complete, fail]; exact if_neg h⟩

theorem complete_ok (g : Registry) (rs : List Record) :
    (g.complete g.generation (.ok rs)).2 =
      { g with
        snapshot := .ofRecords (Record.merge rs g.locals)
        fetched := rs
        stale := none
        loaded := true
        fetching := false
        lastError := none } := by
  rw [complete, succeed]
  exact if_pos rfl

theorem complete_error (g : Registry) (e : FetchError) :
    (g.complete g.generation (.error e)).2 =
      { g with
        snapshot := g.stale.getD g.snapshot
        fetching := false
        lastError := some e } := by
  rw [complete, fail]
  exact if_pos rfl

theorem generation_complete (g : Registry) (generation : Nat)
    (outcome : Except FetchError (List Record)) :
    (g.complete generation outcome).2.generation = g.generation := by
  by_cases h : generation = g.generation
  · subst h
    cases outcome with
    | ok rs => rw [complete_ok]
    | error e => rw [complete_error]
  · obtain ⟨e, he⟩ := complete_of_ne h outcome
    rw [he]

/-- When the fetch of this generation ends, none is running any more. -/
theorem fetching_complete (g : Registry) (outcome : Except FetchError (List Record)) :
    (g.complete g.generation outcome).2.fetching = false := by
  cases outcome with
  | ok rs => rw [complete_ok]
  | error e => rw [complete_error]

end Registry

namespace RegistryHistory

/-! ## Which fetches are running -/

/-- What a history knows about the fetches: which of them are of the present generation. -/
structure Tracked (h : RegistryHistory) : Prop where
  startedAtClear_le : h.startedAtClear ≤ h.started
  number_lt : ∀ f ∈ h.running, f.number < h.started
  delivered_lt : ∀ d ∈ h.delivered, d.number < h.started
  generation_le : ∀ f ∈ h.running, f.generation ≤ h.registry.generation
  /-- the fetches of the present generation are those that were started since the latest clear -/
  generation_iff : ∀ f ∈ h.running,
    f.generation = h.registry.generation ↔ h.startedAtClear ≤ f.number
  fetching : ∀ f ∈ h.running, f.generation = h.registry.generation → h.registry.fetching = true
  /-- there is at most one of them -/
  unique : ∀ f ∈ h.running, ∀ f' ∈ h.running, f.generation = h.registry.generation →
    f'.generation = h.registry.generation → f = f'
  /-- and only while the registry is not loaded -/
  idle : h.registry.loaded = true → h.registry.fetching = false

theorem tracked_new (shortIdLength : Int) : (new shortIdLength).Tracked where
  startedAtClear_le := Nat.le_refl 0
  number_lt := by simp [new]
  delivered_lt := by simp [new]
  generation_le := by simp [new]
  generation_iff := by simp [new]
  fetching := by simp [new]
  unique := by simp [new]
  idle := fun _ => rfl

/-- A load starts a fetch, or it changes who waits and nothing else. -/
theorem load_cases (h : RegistryHistory) :
    (∃ ws, h.load = { h with waits := ws }) ∨
      h.registry.loaded = false ∧ h.registry.fetching = false := by
  cases hloaded : h.registry.loaded with
  | true => exact .inl ⟨h.waits, by rw [load, Registry.load_of_loaded hloaded]⟩
  | false =>
    cases hfetching : h.registry.fetching with
    | true => exact .inl ⟨_, by rw [load, Registry.load_of_fetching hloaded hfetching]⟩
    | false => exact .inr ⟨rfl, rfl⟩

theorem load_of_idle {h : RegistryHistory} (hloaded : h.registry.loaded = false)
    (hfetching : h.registry.fetching = false) :
    h.load = { h with
      registry := { h.registry with fetching := true }
      started := h.started + 1
      running := h.running ++ [⟨h.started, h.registry.generation⟩]
      waits := h.waits ++ [h.started] } := by
  rw [load, Registry.load_of_idle hloaded hfetching]

/-- What a load does that starts a fetch: it is the first one of the present generation. -/
theorem Tracked.start {h : RegistryHistory} (ht : h.Tracked) (hloaded : h.registry.loaded = false)
    (hfetching : h.registry.fetching = false) : h.load.Tracked := by
  have hnone : ∀ f ∈ h.running, f.generation ≠ h.registry.generation := by
    intro f hf hgen
    have hbusy := ht.fetching f hf hgen
    rw [hfetching] at hbusy
    exact Bool.noConfusion hbusy
  rw [load_of_idle hloaded hfetching]
  refine ⟨Nat.le_succ_of_le ht.startedAtClear_le, ?_, ?_, ?_, ?_, fun _ _ _ => rfl, ?_, ?_⟩
  · intro f hf
    rcases List.mem_append.1 hf with hf | hf
    · exact Nat.lt_succ_of_lt (ht.number_lt f hf)
    · rw [List.mem_singleton.1 hf]
      exact Nat.lt_succ_self h.started
  · exact fun d hd => Nat.lt_succ_of_lt (ht.delivered_lt d hd)
  · intro f hf
    rcases List.mem_append.1 hf with hf | hf
    · exact ht.generation_le f hf
    · obtain rfl := List.mem_singleton.1 hf
      exact Nat.le_refl _
  · intro f hf
    rcases List.mem_append.1 hf with hf | hf
    · exact ht.generation_iff f hf
    · rw [List.mem_singleton.1 hf]
      exact ⟨fun _ => ht.startedAtClear_le, fun _ => rfl⟩
  · intro f hf f' hf' hgen hgen'
    rcases List.mem_append.1 hf with hf | hf
    · exact absurd hgen (hnone f hf)
    rcases List.mem_append.1 hf' with hf' | hf'
    · exact absurd hgen' (hnone f' hf')
    rw [List.mem_singleton.1 hf, List.mem_singleton.1 hf']
  · intro hl
    rw [hloaded] at hl
    exact Bool.noConfusion hl

theorem Tracked.load {h : RegistryHistory} (ht : h.Tracked) : h.load.Tracked := by
  rcases h.load_cases with ⟨ws, hw⟩ | ⟨hloaded, hfetching⟩
  · rw [hw]
    exact ⟨ht.1, ht.2, ht.3, ht.4, ht.5, ht.6, ht.7, ht.8⟩
  · exact ht.start hloaded hfetching

theorem Tracked.clear {h : RegistryHistory} (ht : h.Tracked) : h.clear.Tracked := by
  -- every fetch that is running is now of an older generation
  have hnone : ∀ f ∈ h.running, f.generation ≠ h.registry.generation + 1 := fun f hf =>
    Nat.ne_of_lt (Nat.lt_succ_of_le (ht.generation_le f hf))
  refine ⟨Nat.le_refl _, ht.number_lt, ht.delivered_lt, ?_, ?_, ?_, ?_, fun _ => rfl⟩
  · exact fun f hf => Nat.le_succ_of_le (ht.generation_le f hf)
  · exact fun f hf => iff_of_false (hnone f hf) (Nat.not_le_of_lt (ht.number_lt f hf))
  · exact fun f hf hgen => absurd hgen (hnone f hf)
  · exact fun f hf _ _ hgen => absurd hgen (hnone f hf)

theorem Tracked.register {h : RegistryHistory} (ht : h.Tracked) (rs : List Record) :
    (h.register rs).Tracked :=
  ⟨ht.1, ht.2, ht.3, ht.4, ht.5, ht.6, ht.7, ht.8⟩

theorem Tracked.giveUp {h : RegistryHistory} (ht : h.Tracked) (number : Nat) :
    (h.giveUp number).Tracked :=
  ⟨ht.1, ht.2, ht.3, ht.4, ht.5, ht.6, ht.7, ht.8⟩

theorem registry_complete (h : RegistryHistory) (f : StartedFetch)
    (outcome : Except FetchError (List Record)) :
    (h.complete f outcome).registry = (h.registry.complete f.generation outcome).2 := rfl

theorem mem_running_complete {h : RegistryHistory} {f f' : StartedFetch}
    {outcome : Except FetchError (List Record)} :
    f' ∈ (h.complete f outcome).running ↔ f' ∈ h.running ∧ f' ≠ f := by
  simp [complete]

/-- What was delivered by the end of a fetch is what the fetch brought and what there was before. -/
theorem delivered_complete {h : RegistryHistory} {f : StartedFetch}
    {outcome : Except FetchError (List Record)} {d : Delivery}
    (hd : d ∈ (h.complete f outcome).delivered) : d.number = f.number ∨ d ∈ h.delivered := by
  cases outcome with
  | ok rs =>
    rcases List.mem_cons.1 hd with rfl | hd
    · exact .inl rfl
    · exact .inr hd
  | error e => exact .inr hd

theorem Tracked.complete {h : RegistryHistory} (ht : h.Tracked) {f : StartedFetch}
    (hf : f ∈ h.running) (outcome : Except FetchError (List Record)) :
    (h.complete f outcome).Tracked := by
  have hdelivered : ∀ d ∈ (h.complete f outcome).delivered, d.number < h.started := by
    intro d hd
    rcases delivered_complete hd with hd | hd
    · rw [hd]
      exact ht.number_lt f hf
    · exact ht.delivered_lt d hd
  have hgeneration : (h.complete f outcome).registry.generation = h.registry.generation :=
    Registry.generation_complete h.registry f.generation outcome
  refine ⟨ht.startedAtClear_le, ?_, hdelivered, ?_, ?_, ?_, ?_, ?_⟩
  · exact fun f' hf' => ht.number_lt f' (mem_running_complete.1 hf').1
  · intro f' hf'
    rw [hgeneration]
    exact ht.generation_le f' (mem_running_complete.1 hf').1
  · intro f' hf'
    rw [hgeneration]
    exact ht.generation_iff f' (mem_running_complete.1 hf').1
  · intro f' hf' hgen'
    rw [hgeneration] at hgen'
    obtain ⟨hf', hne⟩ := mem_running_complete.1 hf'
    have hold : f.generation ≠ h.registry.generation := fun hgen =>
      hne (ht.unique f' hf' f hf hgen' hgen)
    obtain ⟨e, he⟩ := Registry.complete_of_ne hold outcome
    rw [registry_complete, he]
    exact ht.fetching f' hf' hgen'
  · intro f₁ hf₁ f₂ hf₂ h₁ h₂
    rw [hgeneration] at h₁ h₂
    exact ht.unique f₁ (mem_running_complete.1 hf₁).1 f₂ (mem_running_complete.1 hf₂).1 h₁ h₂
  · rw [registry_complete]
    by_cases hgen : f.generation = h.registry.generation
    · rw [hgen]
      exact fun _ => Registry.fetching_complete h.registry outcome
    · obtain ⟨e, he⟩ := Registry.complete_of_ne hgen outcome
      rw [he]
      exact ht.idle

/-! ## What the registry holds -/

/-- The fetches that were started since the latest clear and ended well. -/
def sinceClear (h : RegistryHistory) : List Delivery :=
  h.delivered.filter (h.startedAtClear ≤ ·.number)

/-- What the registry holds, by what happened to it. -/
structure Sound (h : RegistryHistory) : Prop where
  locals : h.registry.locals = Record.distinct h.registered
  distinct : (h.registry.records.map Record.key).Nodup
  distinct_stale : ∀ s ∈ h.registry.stale, (s.records.map Record.key).Nodup
  loaded : h.registry.loaded = true → (∃ n, h.sinceClear = [⟨n, h.registry.fetched⟩]) ∧
    h.registry.records = Record.merge h.registry.fetched h.registry.locals
  unloaded : h.registry.loaded = false → h.sinceClear = []

theorem sound_new (shortIdLength : Int) : (new shortIdLength).Sound where
  locals := rfl
  distinct := List.nodup_nil
  distinct_stale := by simp [new]
  loaded := by simp [new]
  unloaded := fun _ => rfl

theorem Sound.load {h : RegistryHistory} (hs : h.Sound) : h.load.Sound := by
  rcases h.load_cases with ⟨ws, hw⟩ | ⟨hloaded, hfetching⟩
  · rw [hw]
    exact ⟨hs.1, hs.2, hs.3, hs.4, hs.5⟩
  · rw [load_of_idle hloaded hfetching]
    exact ⟨hs.1, hs.2, hs.3, hs.4, hs.5⟩

theorem Sound.clear {h : RegistryHistory} (hs : h.Sound) (ht : h.Tracked) : h.clear.Sound := by
  refine ⟨hs.locals, ?_, ?_, fun hl => Bool.noConfusion hl, fun _ => ?_⟩
  · show (h.registry.locals.map Record.key).Nodup
    rw [hs.locals]
    exact Record.nodup_distinct h.registered
  · intro s hstale
    have hstale : s ∈ if h.registry.fetched.isEmpty then h.registry.stale
        else some h.registry.snapshot := hstale
    split at hstale
    · exact hs.distinct_stale s hstale
    · rw [← Option.some.inj hstale]
      exact hs.distinct
  · refine List.filter_eq_nil_iff.2 fun d hd => ?_
    have hlt := ht.delivered_lt d hd
    exact fun hle => Nat.not_le_of_lt hlt (of_decide_eq_true hle)

theorem Sound.register {h : RegistryHistory} (hs : h.Sound) (rs : List Record) :
    (h.register rs).Sound where
  locals := by
    show Record.merge h.registry.locals rs = _
    rw [hs.locals, Record.merge_distinct]
    rfl
  distinct := Record.nodup_merge h.registry.fetched _
  distinct_stale := hs.distinct_stale
  loaded := fun hl => ⟨(hs.loaded hl).1, rfl⟩
  unloaded := hs.unloaded

theorem Sound.giveUp {h : RegistryHistory} (hs : h.Sound) (number : Nat) :
    (h.giveUp number).Sound :=
  ⟨hs.1, hs.2, hs.3, hs.4, hs.5⟩

/-- What an older fetch brings does not count. -/
theorem sinceClear_complete_of_ne {h : RegistryHistory} (ht : h.Tracked) {f : StartedFetch}
    (hf : f ∈ h.running) (hgen : f.generation ≠ h.registry.generation)
    (outcome : Except FetchError (List Record)) :
    (h.complete f outcome).sinceClear = h.sinceClear := by
  cases outcome with
  | error e => rfl
  | ok rs =>
    have hlt : ¬h.startedAtClear ≤ f.number := fun hle => hgen ((ht.generation_iff f hf).2 hle)
    exact List.filter_cons_of_neg fun h => hlt (of_decide_eq_true h)

theorem sinceClear_complete_ok {h : RegistryHistory} (ht : h.Tracked) {f : StartedFetch}
    (hf : f ∈ h.running) (hgen : f.generation = h.registry.generation) (rs : List Record) :
    (h.complete f (.ok rs)).sinceClear = ⟨f.number, rs⟩ :: h.sinceClear := by
  have hle : h.startedAtClear ≤ f.number := (ht.generation_iff f hf).1 hgen
  exact List.filter_cons_of_pos (decide_eq_true hle)

/-- While a fetch of the present generation is running, the registry is not loaded. -/
theorem Tracked.unloaded {h : RegistryHistory} (ht : h.Tracked) {f : StartedFetch}
    (hf : f ∈ h.running) (hgen : f.generation = h.registry.generation) :
    h.registry.loaded = false := by
  rw [Bool.eq_false_iff]
  intro hl
  have hidle := ht.idle hl
  rw [ht.fetching f hf hgen] at hidle
  exact Bool.noConfusion hidle

theorem Sound.complete_ok {h : RegistryHistory} (hs : h.Sound) (ht : h.Tracked) {f : StartedFetch}
    (hf : f ∈ h.running) (hgen : f.generation = h.registry.generation) (rs : List Record) :
    (h.complete f (.ok rs)).Sound := by
  have hregistry := registry_complete h f (.ok rs)
  rw [hgen, Registry.complete_ok] at hregistry
  have hsince := sinceClear_complete_ok ht hf hgen rs
  rw [hs.unloaded (ht.unloaded hf hgen)] at hsince
  refine ⟨?_, ?_, ?_, fun _ => ⟨⟨f.number, ?_⟩, ?_⟩, ?_⟩
  · rw [hregistry]
    exact hs.locals
  · rw [hregistry]
    exact Record.nodup_merge rs h.registry.locals
  · rw [hregistry]
    exact fun s hstale => absurd hstale (by simp)
  · rw [hsince, hregistry]
  · rw [hregistry]
    rfl
  · rw [hregistry]
    exact fun hl => Bool.noConfusion hl

/-- What a registry falls back on has been its contents before. -/
theorem Sound.complete_error {h : RegistryHistory} (hs : h.Sound) (ht : h.Tracked)
    {f : StartedFetch} (hf : f ∈ h.running) (hgen : f.generation = h.registry.generation)
    (e : FetchError) : (h.complete f (.error e)).Sound := by
  have hunloaded := ht.unloaded hf hgen
  have hregistry := registry_complete h f (.error e)
  rw [hgen, Registry.complete_error] at hregistry
  refine ⟨?_, ?_, ?_, ?_, fun _ => hs.unloaded hunloaded⟩
  · rw [hregistry]
    exact hs.locals
  · rw [hregistry]
    show ((h.registry.stale.getD h.registry.snapshot).records.map Record.key).Nodup
    cases hstale : h.registry.stale with
    | none => exact hs.distinct
    | some s => exact hs.distinct_stale s (by simp [hstale])
  · rw [hregistry]
    exact hs.distinct_stale
  · rw [hregistry]
    intro hl
    have hl : h.registry.loaded = true := hl
    rw [hunloaded] at hl
    exact Bool.noConfusion hl

theorem Sound.complete_late {h : RegistryHistory} (hs : h.Sound) (ht : h.Tracked)
    {f : StartedFetch} (hf : f ∈ h.running) (hgen : f.generation ≠ h.registry.generation)
    (outcome : Except FetchError (List Record)) : (h.complete f outcome).Sound := by
  obtain ⟨e, he⟩ := Registry.complete_of_ne hgen outcome
  have hregistry := registry_complete h f outcome
  have hsince := sinceClear_complete_of_ne ht hf hgen outcome
  rw [he] at hregistry
  refine ⟨?_, ?_, ?_, ?_, ?_⟩
  · rw [hregistry]
    exact hs.locals
  · rw [hregistry]
    exact hs.distinct
  · rw [hregistry]
    exact hs.distinct_stale
  · rw [hregistry, hsince]
    exact hs.loaded
  · rw [hregistry, hsince]
    exact hs.unloaded

theorem Sound.complete {h : RegistryHistory} (hs : h.Sound) (ht : h.Tracked) {f : StartedFetch}
    (hf : f ∈ h.running) (outcome : Except FetchError (List Record)) :
    (h.complete f outcome).Sound := by
  by_cases hgen : f.generation = h.registry.generation
  · cases outcome with
    | ok rs => exact hs.complete_ok ht hf hgen rs
    | error e => exact hs.complete_error ht hf hgen e
  · exact hs.complete_late ht hf hgen outcome

/-! ## The run -/

/-- One thing that happens keeps the invariant. -/
theorem Step.invariant {h k : RegistryHistory} (hs : h.Step k) (ht : h.Tracked) (hsound : h.Sound) :
    k.Tracked ∧ k.Sound := by
  cases hs with
  | load => exact ⟨ht.load, hsound.load⟩
  | complete f hf outcome => exact ⟨ht.complete hf outcome, hsound.complete ht hf outcome⟩
  | clear => exact ⟨ht.clear, hsound.clear ht⟩
  | register rs => exact ⟨ht.register rs, hsound.register rs⟩
  | giveUp number => exact ⟨ht.giveUp number, hsound.giveUp number⟩

theorem Reachable.invariant {h : RegistryHistory} (hr : h.Reachable) : h.Tracked ∧ h.Sound := by
  induction hr with
  | new shortIdLength => exact ⟨tracked_new shortIdLength, sound_new shortIdLength⟩
  | step _ hs ih => exact hs.invariant ih.1 ih.2

/-! ## Coherence -/

/-- The records that count under a key: the fetched one, and if there is none, the one that was
registered first. -/
def expected (fetched : List Record) (h : RegistryHistory) (k : Text × Text) : Option Record :=
  (fetched.find? (·.key == k)).or (h.registered.find? (·.key == k))

/-- What is promised of the contents of a registry. -/
structure Coherent (h : RegistryHistory) : Prop where
  /-- no two records have the same key -/
  distinct : (h.registry.records.map Record.key).Nodup
  /-- the local records are those that were registered -/
  locals : h.registry.locals = Record.distinct h.registered
  /-- a registry that is loaded holds the records of the one fetch that was started since the
  latest clear and ended well, and the local records -/
  contents : h.registry.loaded = true → ∃ d, h.sinceClear = [d] ∧ h.registry.fetched = d.records ∧
    h.registry.records = Record.merge d.records h.registry.locals ∧
    ∀ k, h.registry.records.find? (·.key == k) = h.expected d.records k
  /-- the end of a fetch that was started before the latest clear changes nothing of this -/
  late : ∀ f ∈ h.running, f.number < h.startedAtClear → ∀ outcome, ∃ e,
    (h.complete f outcome).registry = { h.registry with lastError := e }

/-- **The contents of a registry are coherent**, in whatever order things happen to it. -/
theorem coherent_of_reachable {h : RegistryHistory} (hr : h.Reachable) : h.Coherent := by
  obtain ⟨ht, hs⟩ := hr.invariant
  refine ⟨hs.distinct, hs.locals, fun hl => ?_, fun f hf hlt outcome => ?_⟩
  · obtain ⟨⟨n, hn⟩, hrecords⟩ := hs.loaded hl
    refine ⟨⟨n, h.registry.fetched⟩, hn, rfl, hrecords, fun k => ?_⟩
    rw [hrecords, Record.find?_merge, hs.locals, Record.find?_distinct, expected]
  · have hgen : f.generation ≠ h.registry.generation := fun hgen =>
      Nat.not_le_of_lt hlt ((ht.generation_iff f hf).1 hgen)
    exact Registry.complete_of_ne hgen outcome

/-- A fetch is started, two records are registered while it runs, the registry is cleared and a
second fetch is started; both end, the first one last. -/
theorem coherent_of_late_fetch :
    let hp (value : String) : Record :=
      { id := "a1b2".toList, sourceName := "npc".toList, field := "hp".toList, value := value.toList }
    let mp : Record := { id := "a1b2".toList, sourceName := "npc".toList, field := "mp".toList }
    let h := (((((new 4).load.register [hp "1", mp]).clear.load).complete ⟨1, 1⟩
      (.ok [hp "2"])).complete ⟨0, 0⟩ (.ok [hp "3"]))
    h.Coherent ∧ h.registry.loaded = true ∧ h.registry.records = [hp "2", mp] := by
  intro hp mp h
  have h₁ : ((new 4).load.register [hp "1", mp]).Reachable :=
    .step (.step (.new 4) .load) (.register _)
  have h₂ : ((new 4).load.register [hp "1", mp]).clear.load.Reachable :=
    .step (.step h₁ .clear) .load
  have h₃ := h₂.step (.complete ⟨1, 1⟩ (by decide) (.ok [hp "2"]))
  have h₄ : h.Reachable := h₃.step (.complete ⟨0, 0⟩ (by decide) (.ok [hp "3"]))
  exact ⟨coherent_of_reachable h₄, rfl, by decide⟩

end RegistryHistory
end LiveText
