import LiveText.Proofs.Registry.Coherence
import LiveText.Proofs.Registry.Lookup

/-!
# What a registry holds, told by what happened to it

A run of a registry is a list of events, the latest one first (`RegistryHistory.after`). What the
registry holds can be told from the events alone, without looking at how it keeps its snapshots:
from the last fetch that counted (`lastFetched`), from what had been registered when its records
were dropped (`registeredAtDrop`), and from whether the registry has fallen back on the dropped
records since (`fellBack`).

A fetch counts if it ends well while its generation is the present one. Its records are dropped by
the next clear, together with all that was registered by then, and they are kept beside the registry
until another fetch counts, through any number of clears, registrations and failures. This is the
invariant `Recalled`.

## What is here

* `Event` and `after`: the runs. `reachable_after` says that they are histories.
* `Recalled` with a step lemma for each event; **`recalled_after`** is the run.
-/

set_option autoImplicit false

namespace LiveText

/-- The records that a fetch brings have different keys. -/
theorem FetchOutcome.nodup_records {outcome : FetchOutcome} {rs : List Record}
    (h : FetchOutcome.records outcome = .ok rs) : (rs.map Record.key).Nodup := by
  cases outcome with
  | error e => cases h
  | ok entries =>
    rw [FetchOutcome.records] at h
    cases hentries : Catalog.records entries with
    | error e =>
      rw [hentries] at h
      cases h
    | ok qs =>
      rw [hentries] at h
      cases h
      rw [Catalog.records] at hentries
      cases hmap : entries.mapM Catalog.record? with
      | error e =>
        rw [hmap] at hentries
        cases hentries
      | ok os =>
        rw [hmap] at hentries
        cases hentries
        exact Record.nodup_distinct _

namespace RegistryHistory

/-! ## Runs -/

/-- One thing that happens to a registry. -/
inductive Event
  | load
  /-- a fetch ends, with what the catalog answered -/
  | answered (f : StartedFetch) (outcome : FetchOutcome)
  | clear
  | register (rs : List Record)
  /-- a wait for a fetch is given up -/
  | giveUp (number : Nat)

/-- The history with one more event; only a fetch that is running can end. -/
def happen (e : Event) (h : RegistryHistory) : RegistryHistory :=
  match e with
  | .load => h.load
  | .answered f outcome => if f ∈ h.running then h.complete f (FetchOutcome.records outcome) else h
  | .clear => h.clear
  | .register rs => h.register rs
  | .giveUp number => h.giveUp number

/-- How a fetch ends, if it is running and its generation is the present one. -/
def ending (f : StartedFetch) (outcome : FetchOutcome) (h : RegistryHistory) :
    Option (Except FetchError (List Record)) :=
  if f ∈ h.running ∧ f.generation = h.registry.generation then some (FetchOutcome.records outcome)
  else none

section
variable (shortIdLength : Int)

/-- The history of a new registry to which events happened, the latest one first. -/
def after : List Event → RegistryHistory
  | [] => new shortIdLength
  | e :: es => (after es).happen e

/-- The records of the last fetch that ended well in its own generation. -/
def lastFetched : List Event → Option (List Record)
  | [] => none
  | .answered f outcome :: es =>
    match (after shortIdLength es).ending f outcome with
    | some (.ok rs) => some rs
    | _ => lastFetched es
  | _ :: es => lastFetched es

/-- What had been registered when the last fetched records were dropped. -/
def registeredAtDrop : List Event → List Record
  | [] => []
  | .clear :: es =>
    if (after shortIdLength es).registry.loaded then (after shortIdLength es).registered
    else registeredAtDrop es
  | _ :: es => registeredAtDrop es

/-- The records that were dropped, which the registry can fall back on: those that were fetched last,
and those that had been registered by then. -/
def dropped (es : List Event) : List Record :=
  Record.merge ((lastFetched shortIdLength es).getD [])
    (Record.distinct (registeredAtDrop shortIdLength es))

/-- Whether the registry answers from the dropped records: a fetch of the present generation failed,
and there was something to fall back on. A clear or a registration ends this. -/
def fellBack : List Event → Bool
  | [] => false
  | .answered f outcome :: es =>
    match (after shortIdLength es).ending f outcome with
    | some (.ok _) => false
    | some (.error _) => !((lastFetched shortIdLength es).getD []).isEmpty
    | none => fellBack es
  | .clear :: _ => false
  | .register _ :: _ => false
  | _ :: es => fellBack es

end

/-- The histories of runs are reachable. -/
theorem reachable_after (n : Int) (es : List Event) : (after n es).Reachable := by
  induction es with
  | nil => exact .new n
  | cons e es ih =>
    cases e with
    | load => exact ih.step .load
    | answered f outcome =>
      rw [after, happen]
      split
      · next hf => exact ih.step (.complete f hf _)
      · exact ih
    | clear => exact ih.step .clear
    | register rs => exact ih.step (.register rs)
    | giveUp number => exact ih.step (.giveUp number)

/-! ## What a registry holds -/

section
variable {n : Int} {es : List Event}

/-- What the registry holds, told by the events. -/
structure Recalled (n : Int) (es : List Event) : Prop where
  /-- a registry that is loaded holds the records that were fetched last -/
  loaded : (after n es).registry.loaded = true →
    lastFetched n es = some (after n es).registry.fetched ∧ (after n es).registry.stale = none ∧
      fellBack n es = false
  /-- one that is not loaded has dropped them, and keeps what was dropped -/
  unloaded : (after n es).registry.loaded = false →
    (after n es).registry.fetched = [] ∧
      (after n es).registry.stale.map Snapshot.records =
        if (lastFetched n es).getD [] = [] then none else some (dropped n es)
  /-- it falls back only on what was fetched -/
  fetched_of_fellBack : fellBack n es = true → (lastFetched n es).getD [] ≠ []
  records : (after n es).registry.records =
    if fellBack n es then dropped n es
    else Record.merge (after n es).registry.fetched (after n es).registry.locals

theorem recalled_nil (n : Int) : Recalled n [] where
  loaded := fun hl => Bool.noConfusion hl
  unloaded := fun _ => ⟨rfl, rfl⟩
  fetched_of_fellBack := fun hb => Bool.noConfusion hb
  records := rfl

/-- An event that does not touch the contents of the registry leaves what can be told of them. -/
theorem Recalled.unchanged {e : Event} (hr : Recalled n es)
    (hregistry : ∃ fetching lastError, (after n (e :: es)).registry =
      { (after n es).registry with fetching, lastError })
    (hfetched : lastFetched n (e :: es) = lastFetched n es)
    (hdrop : registeredAtDrop n (e :: es) = registeredAtDrop n es)
    (hback : fellBack n (e :: es) = fellBack n es) : Recalled n (e :: es) := by
  obtain ⟨fetching, lastError, hregistry⟩ := hregistry
  have hdropped : dropped n (e :: es) = dropped n es := by rw [dropped, dropped, hfetched, hdrop]
  refine ⟨?_, ?_, ?_, ?_⟩
  · rw [hregistry, hfetched, hback]
    exact hr.loaded
  · rw [hregistry, hfetched, hdropped]
    exact hr.unloaded
  · rw [hfetched, hback]
    exact hr.fetched_of_fellBack
  · rw [hregistry, hback, hdropped]
    exact hr.records

theorem Recalled.load (hr : Recalled n es) : Recalled n (.load :: es) := by
  refine hr.unchanged ?_ rfl rfl rfl
  rcases (after n es).load_cases with ⟨ws, hw⟩ | ⟨hloaded, hfetching⟩
  · refine ⟨(after n es).registry.fetching, (after n es).registry.lastError, ?_⟩
    rw [after, happen, hw]
  · refine ⟨true, (after n es).registry.lastError, ?_⟩
    rw [after, happen, load_of_idle hloaded hfetching]

theorem Recalled.giveUp (hr : Recalled n es) (number : Nat) : Recalled n (.giveUp number :: es) :=
  hr.unchanged ⟨_, _, rfl⟩ rfl rfl rfl

theorem Recalled.register (hr : Recalled n es) (rs : List Record) :
    Recalled n (.register rs :: es) where
  loaded := fun hl => ⟨(hr.loaded hl).1, (hr.loaded hl).2.1, rfl⟩
  unloaded := hr.unloaded
  fetched_of_fellBack := fun hb => Bool.noConfusion hb
  records := rfl

theorem Recalled.clear (hr : Recalled n es) : Recalled n (.clear :: es) := by
  obtain ⟨-, hs⟩ := (reachable_after n es).invariant
  refine ⟨fun hl => Bool.noConfusion hl, fun _ => ⟨rfl, ?_⟩, fun hb => Bool.noConfusion hb, ?_⟩
  · change (if (after n es).registry.fetched.isEmpty then (after n es).registry.stale
      else some (after n es).registry.snapshot).map Snapshot.records = _
    cases hl : (after n es).registry.loaded with
    | true =>
      obtain ⟨hfetched, hstale, hback⟩ := hr.loaded hl
      have hlast : lastFetched n (.clear :: es) = some (after n es).registry.fetched := hfetched
      have hdropped : dropped n (.clear :: es) = (after n es).registry.records := by
        have hdrop : registeredAtDrop n (.clear :: es) = (after n es).registered := if_pos hl
        rw [hr.records, hback, dropped, hlast, hdrop, hs.locals]
        rfl
      rw [hlast, hdropped, hstale, Option.getD_some]
      cases (after n es).registry.fetched with
      | nil => rfl
      | cons r rs => rfl
    | false =>
      obtain ⟨hfetched, hstale⟩ := hr.unloaded hl
      have hdropped : dropped n (.clear :: es) = dropped n es := by
        have hdrop : registeredAtDrop n (.clear :: es) = registeredAtDrop n es := by
          rw [registeredAtDrop, hl]
          rfl
        rw [dropped, dropped, hdrop]
        rfl
      rw [hfetched, hdropped]
      exact hstale
  · change (after n es).registry.locals = Record.merge [] (after n es).registry.locals
    rw [hs.locals, Record.merge, List.nil_append, Record.distinct_distinct]

/-! ### The end of a fetch -/

section
variable {f : StartedFetch} {outcome : FetchOutcome}

theorem ending_of_current (outcome : FetchOutcome) (hf : f ∈ (after n es).running)
    (hgen : f.generation = (after n es).registry.generation) :
    (after n es).ending f outcome = some (FetchOutcome.records outcome) :=
  if_pos ⟨hf, hgen⟩

theorem registry_answered (hf : f ∈ (after n es).running) :
    (after n (.answered f outcome :: es)).registry =
      ((after n es).registry.complete f.generation (FetchOutcome.records outcome)).2 := by
  rw [after, happen, if_pos hf]
  rfl

theorem Recalled.answered_of_ne (hr : Recalled n es)
    (h : ¬(f ∈ (after n es).running ∧ f.generation = (after n es).registry.generation)) :
    Recalled n (.answered f outcome :: es) := by
  have hending : (after n es).ending f outcome = none := if_neg h
  refine hr.unchanged ?_ (by rw [lastFetched, hending]) rfl (by rw [fellBack, hending])
  by_cases hf : f ∈ (after n es).running
  · obtain ⟨e, he⟩ := Registry.complete_of_ne (fun hgen => h ⟨hf, hgen⟩)
      (FetchOutcome.records outcome)
    exact ⟨_, e, (registry_answered hf).trans he⟩
  · refine ⟨(after n es).registry.fetching, (after n es).registry.lastError, ?_⟩
    rw [after, happen, if_neg hf]

variable (hf : f ∈ (after n es).running)
  (hgen : f.generation = (after n es).registry.generation)
include hf hgen

theorem registry_answered_ok {rs : List Record} (hok : FetchOutcome.records outcome = .ok rs) :
    (after n (.answered f outcome :: es)).registry =
      { (after n es).registry with
        snapshot := .ofRecords (Record.merge rs (after n es).registry.locals)
        fetched := rs
        stale := none
        loaded := true
        fetching := false
        lastError := none } := by
  rw [registry_answered hf, hgen, hok, Registry.complete_ok]

theorem registry_answered_error {e : FetchError}
    (herror : FetchOutcome.records outcome = .error e) :
    (after n (.answered f outcome :: es)).registry =
      { (after n es).registry with
        snapshot := (after n es).registry.stale.getD (after n es).registry.snapshot
        fetching := false
        lastError := some e } := by
  rw [registry_answered hf, hgen, herror, Registry.complete_error]

theorem Recalled.answered_ok {rs : List Record} (hok : FetchOutcome.records outcome = .ok rs) :
    Recalled n (.answered f outcome :: es) := by
  have hending := ending_of_current outcome hf hgen
  rw [hok] at hending
  have hback : fellBack n (.answered f outcome :: es) = false := by rw [fellBack, hending]
  have hlast : lastFetched n (.answered f outcome :: es) = some rs := by rw [lastFetched, hending]
  have hregistry := registry_answered_ok hf hgen hok
  refine ⟨fun _ => ⟨?_, ?_, hback⟩, fun hl => ?_, fun hb => ?_, ?_⟩
  · rw [hlast, hregistry]
  · rw [hregistry]
  · rw [hregistry] at hl
    exact Bool.noConfusion hl
  · rw [hback] at hb
    exact Bool.noConfusion hb
  · rw [hback, hregistry]
    rfl

/-- A registry that has dropped fetched records falls back on them, and on nothing else; where there
are none, it goes on as it was. -/
theorem Recalled.answered_error (hr : Recalled n es) {e : FetchError}
    (herror : FetchOutcome.records outcome = .error e) :
    Recalled n (.answered f outcome :: es) := by
  obtain ⟨ht, -⟩ := (reachable_after n es).invariant
  have hunloaded := ht.unloaded hf hgen
  obtain ⟨hfetched, hstale⟩ := hr.unloaded hunloaded
  have hending := ending_of_current outcome hf hgen
  rw [herror] at hending
  have hlast : lastFetched n (.answered f outcome :: es) = lastFetched n es := by
    rw [lastFetched, hending]
  have hback : fellBack n (.answered f outcome :: es) =
      !((lastFetched n es).getD []).isEmpty := by rw [fellBack, hending]
  have hdropped : dropped n (.answered f outcome :: es) = dropped n es := by
    rw [dropped, hlast]
    rfl
  have hregistry := registry_answered_error hf hgen herror
  refine ⟨fun hl => ?_, fun _ => ?_, fun hb => ?_, ?_⟩
  · rw [hregistry] at hl
    have hl : (after n es).registry.loaded = true := hl
    rw [hunloaded] at hl
    exact Bool.noConfusion hl
  · rw [hregistry, hlast, hdropped]
    exact ⟨hfetched, hstale⟩
  · rw [hlast]
    rw [hback] at hb
    simpa using hb
  · rw [hregistry, hback, hdropped]
    change ((after n es).registry.stale.getD (after n es).registry.snapshot).records = _
    by_cases hnone : (lastFetched n es).getD [] = []
    · have hkept : fellBack n es = false := by
        rw [Bool.eq_false_iff]
        exact fun hb => hr.fetched_of_fellBack hb hnone
      rw [if_pos hnone, Option.map_eq_none_iff] at hstale
      rw [hstale, hnone]
      exact (hr.records).trans (by rw [hkept]; rfl)
    · rw [if_neg hnone] at hstale
      obtain ⟨s, hs, hrecords⟩ := Option.map_eq_some_iff.1 hstale
      rw [hs, Option.getD_some, hrecords, if_pos (by simpa using hnone)]

end

/-- **What a registry holds is told by what happened to it.** -/
theorem recalled_after (n : Int) (es : List Event) : Recalled n es := by
  induction es with
  | nil => exact recalled_nil n
  | cons e es ih =>
    cases e with
    | load => exact ih.load
    | answered f outcome =>
      by_cases h : f ∈ (after n es).running ∧ f.generation = (after n es).registry.generation
      · cases hends : FetchOutcome.records outcome with
        | ok rs => exact Recalled.answered_ok h.1 h.2 hends
        | error e => exact Recalled.answered_error h.1 h.2 ih hends
      · exact ih.answered_of_ne h
    | clear => exact ih.clear
    | register rs => exact ih.register rs
    | giveUp number => exact ih.giveUp number

end

end RegistryHistory
end LiveText
