import LiveText.Proofs.Session.History
import LiveText.Session.Timeline

/-!
# What is done with a session is a run of events

The operations of a `Session` do all that they have to do at once: a fetch and a recognition take no
time. In a `SessionHistory` a recognition is made of events, and others may come between them. A
session `Follows` a history if it is the session of that history, and no recognition is under way in it.
Whatever is done with a session, there is a sequence of events after which a history is followed
(`exists_after_of_reachable`); so what is promised of a content after every sequence of events holds of
every session.

A session has its own supply and its own reader (`Like`). What a fetch brings is part of the event that
it ends, so a history does not need them.
-/

set_option autoImplicit false

namespace LiveText.Session

open SessionHistory

/-! ## Sessions that differ in their supply -/

/-- The sessions are the same, but for what the catalog answers and how texts are resolved. -/
def Like (s t : Session) : Prop :=
  s = { t with supply := s.supply, fetches := s.fetches, resolver := s.resolver }

variable {s t : Session}

theorem Like.of_eq {supply : Supply} {fetches : Nat} {resolver : Snapshot → Text → Option Text}
    (h : s = { t with supply, fetches, resolver }) : s.Like t := by
  subst h
  rfl

/-- A function that does not look at the supply keeps sessions alike. -/
theorem Like.map (h : s.Like t) {f : Session → Session}
    (hf : ∀ (t : Session) (supply : Supply) (fetches : Nat)
      (resolver : Snapshot → Text → Option Text),
      f { t with supply, fetches, resolver } = { f t with supply, fetches, resolver }) :
    (f s).Like (f t) :=
  .of_eq ((congrArg f h).trans (hf _ _ _ _))

theorem Like.outside (h : s.Like t) (supply : Supply) (fetches : Nat)
    (resolver : Snapshot → Text → Option Text) : Like { s with supply, fetches, resolver } t := by
  rw [h]
  rfl

theorem Like.debouncer (h : s.Like t) (surface : Surface) :
    s.debouncer surface = t.debouncer surface := by
  rw [h]
  cases surface <;> rfl

theorem Like.registry (h : s.Like t) : s.registry = t.registry := by
  rw [h]

theorem Like.modifyDebouncer (h : s.Like t) (f : Debouncer → Debouncer) (surface : Surface) :
    (s.modifyDebouncer f surface).Like (t.modifyDebouncer f surface) :=
  h.map (f := (·.modifyDebouncer f surface)) fun _ _ _ _ => by cases surface <;> rfl

/-! ## Following a history -/

/-- No recognition is under way, though one may be scheduled. -/
def Resting (s : Session) : Prop :=
  ∀ surface, (s.debouncer surface).active = none ∧ (s.debouncer surface).waiting = []

/-- The session is that of the history, and no recognition is under way in it. -/
structure Follows (s : Session) (h : SessionHistory) : Prop where
  like : s.Like h.session
  resting : s.Resting

variable {shortIdLength : Int} {typing pasting : Nat} {es : List Event} {s' : Session}

/-- A step that leaves the recognitions alone is one event. -/
theorem Follows.map {h k : SessionHistory} (hs : s.Follows h) {f : Session → Session}
    (hf : ∀ (t : Session) (supply : Supply) (fetches : Nat)
      (resolver : Snapshot → Text → Option Text),
      f { t with supply, fetches, resolver } = { f t with supply, fetches, resolver })
    (hk : k.session = f h.session) (hrest : (f s).Resting) : (f s).Follows k :=
  ⟨hk ▸ hs.like.map hf, hrest⟩

/-! ## Loads -/

theorem load_of_idle (hloaded : s.registry.loaded = false) (hfetching : s.registry.fetching = false) :
    s.load = { s with
      registry := (Registry.complete s.registry.generation (FetchOutcome.records s.supply.outcome)
        { s.registry with fetching := true }).2
      fetches := s.fetches + 1 } := by
  rw [load, Registry.load_of_idle hloaded hfetching]

theorem load_of_not_idle (h : ¬(s.registry.loaded = false ∧ s.registry.fetching = false)) :
    s.load = s := by
  rw [load]
  cases hloaded : s.registry.loaded with
  | true => rw [Registry.load_of_loaded hloaded]
  | false =>
    have hfetching : s.registry.fetching = true := by simpa [hloaded] using h
    rw [Registry.load_of_fetching hloaded hfetching]

theorem debouncer_load (s : Session) (surface : Surface) :
    s.load.debouncer surface = s.debouncer surface := by
  obtain ⟨htyping, hpasting⟩ := debouncers_load s
  cases surface with
  | typing => exact htyping
  | pasting => exact hpasting

/-- A load whose fetch takes no time is the start and the end of that fetch. -/
theorem Like.load (hs : s.Like (after shortIdLength typing pasting es).session) :
    ∃ es', s.load.Like (after shortIdLength typing pasting es').session := by
  by_cases hidle : s.registry.loaded = false ∧ s.registry.fetching = false
  · obtain ⟨hloaded, hfetching⟩ := hidle
    have hregistry : s.registry = (after shortIdLength typing pasting es).registry.registry :=
      hs.registry.trans (bound_after _ _ _ es)
    let r := (after shortIdLength typing pasting es).registry
    let f : StartedFetch := ⟨r.started, r.registry.generation⟩
    refine ⟨.registry (.answered f s.supply.outcome) :: .registry .load :: es, ?_⟩
    have hload := RegistryHistory.load_of_idle (h := r) (hregistry ▸ hloaded) (hregistry ▸ hfetching)
    have hf : f ∈ r.load.running := hload ▸ List.mem_append_right _ List.mem_cons_self
    have hanswered : (r.load.happen (.answered f s.supply.outcome)).registry =
        (Registry.complete s.registry.generation (FetchOutcome.records s.supply.outcome)
          { s.registry with fetching := true }).2 := by
      rw [RegistryHistory.happen, if_pos hf, RegistryHistory.registry_complete, hload, hregistry]
    rw [load_of_idle hloaded hfetching, ← hanswered, hs]
    rfl
  · rw [load_of_not_idle hidle]
    exact ⟨es, hs⟩
/-! ## Recognitions -/

theorem debouncer_modifyDebouncer (f : Debouncer → Debouncer) (s : Session) (surface : Surface) :
    (s.modifyDebouncer f surface).debouncer surface = f (s.debouncer surface) := by
  cases surface <;> rfl

theorem debouncer_modifyDebouncer_of_ne (f : Debouncer → Debouncer) (s : Session)
    {surface other : Surface} (h : other ≠ surface) :
    (s.modifyDebouncer f surface).debouncer other = s.debouncer other := by
  cases surface <;> cases other <;> first | rfl | exact absurd rfl h

/-- Where no recognition is under way, the one that is due starts at once. -/
theorem fire_of_resting {d : Debouncer} (hp : d.pending = true)
    (hrest : d.active = none ∧ d.waiting = []) :
    ∃ t, d.fire = { d with timer := none }.start t := by
  obtain ⟨t, ht⟩ := Option.isSome_iff_exists.1 hp
  refine ⟨t.trigger, ?_⟩
  rw [Debouncer.fire, ht]
  exact if_pos (by rw [hrest.1, hrest.2]; rfl)

theorem resting_fire {surface : Surface} (hp : (s.debouncer surface).pending = true)
    (hrest : s.Resting) : (s.fire surface).Resting := by
  intro other
  by_cases heq : other = surface
  · subst heq
    obtain ⟨t, ht⟩ := fire_of_resting hp (hrest other)
    have hd : (s.fire other).debouncer other = (s.debouncer other).fire.finish := by
      rw [Session.fire, debouncer_modifyDebouncer]
      exact congrArg Debouncer.finish ((debouncer_load _ other).trans (debouncer_modifyDebouncer _ _ _))
    have hwaiting := (hrest other).2
    rw [hd, ht, Debouncer.finish, Debouncer.takeNext]
    split
    · next hw => cases hwaiting.symm.trans hw
    · exact ⟨rfl, hwaiting⟩
  · have hd : (s.fire surface).debouncer other = s.debouncer other := by
      rw [Session.fire, debouncer_modifyDebouncer_of_ne _ _ heq]
      exact (debouncer_load _ other).trans (debouncer_modifyDebouncer_of_ne _ _ heq)
    rw [hd]
    exact hrest other

/-- A recognition is started, waits for the registry, and ends; then the next one may go on. -/
theorem Follows.fire (hs : s.Follows (after shortIdLength typing pasting es)) {surface : Surface}
    (hp : (s.debouncer surface).pending = true) :
    ∃ es', (s.fire surface).Follows (after shortIdLength typing pasting es') := by
  have hdue : (s.modifyDebouncer Debouncer.fire surface).Like
      (after shortIdLength typing pasting (.due surface :: es)).session :=
    hs.like.modifyDebouncer _ _
  obtain ⟨es', hload⟩ := hdue.load
  have hrunning : ((after shortIdLength typing pasting es').session.debouncer surface).running =
      true := by
    obtain ⟨t, ht⟩ := fire_of_resting hp (hs.resting surface)
    rw [← hload.debouncer, debouncer_load, debouncer_modifyDebouncer, ht]
    rfl
  have hrecognized : (after shortIdLength typing pasting (.recognized surface :: es')).session =
      (after shortIdLength typing pasting es').session.recognizeLoaded.modifyDebouncer
        Debouncer.release surface :=
    congrArg SessionHistory.session (if_pos hrunning)
  refine ⟨.admitted surface :: .recognized surface :: es', ?_, resting_fire hp hs.resting⟩
  have hlike := ((hload.map (f := recognizeLoaded) fun _ _ _ _ => rfl).modifyDebouncer
    Debouncer.release surface).modifyDebouncer Debouncer.takeNext surface
  rw [← hrecognized] at hlike
  have hfinish : ∀ k : Session, (k.modifyDebouncer Debouncer.release surface).modifyDebouncer
      Debouncer.takeNext surface = k.modifyDebouncer Debouncer.finish surface := by
    intro k
    cases surface <;> rfl
  rw [hfinish] at hlike
  exact hlike

theorem Follows.flushSurface (hs : s.Follows (after shortIdLength typing pasting es))
    (surface : Surface) :
    ∃ es', (s.flushSurface surface).Follows (after shortIdLength typing pasting es') := by
  unfold Session.flushSurface
  split
  · next hp => exact hs.fire hp
  · exact ⟨es, hs⟩

theorem Follows.flush (hs : s.Follows (after shortIdLength typing pasting es)) :
    ∃ es', s.flush.Follows (after shortIdLength typing pasting es') := by
  obtain ⟨es', hpasting⟩ := hs.flushSurface .pasting
  exact hpasting.flushSurface .typing

theorem Follows.advance (hs : s.Follows (after shortIdLength typing pasting es)) (moment : Nat) :
    ∃ es', (s.advance moment).Follows (after shortIdLength typing pasting es') := by
  fun_induction Session.advance moment s generalizing es with
  | case1 s h => exact ⟨es, hs⟩
  | case2 s surface due h hdue ih =>
    obtain ⟨es', hfired⟩ := hs.fire (pending_of_nextDue h)
    exact ih hfired
  | case3 s surface due h hdue => exact ⟨es, hs⟩

/-! ## What is done with a session -/

/-- One thing is done. -/
inductive Step (s : Session) : Session → Prop
  | insert (r : Record) : Step s (s.insert r)
  | replaceBy (t : Text) : Step s (s.replaceBy t)
  | replaceByContent (c : Content) : Step s (s.replaceByContent c)
  | takeIn (surface : Surface) (now : Nat) (html : Text) : Step s (s.takeIn surface now html)
  | recognize : Step s s.recognize
  | flush : Step s s.flush
  | advance (moment : Nat) : Step s (s.advance moment)
  | clear : Step s s.clear
  | close : Step s s.close
  | store : Step s s.storageText.2
  | resolve : Step s s.resolvedText.2
  | load : Step s s.load
  | clearRegistry : Step s { s with registry := s.registry.clear }
  | register (rs : List Record) : Step s { s with registry := s.registry.register rs }
  /-- the catalog holds something else or fails, or texts are resolved in another way -/
  | outside (supply : Supply) (fetches : Nat) (resolver : Snapshot → Text → Option Text) :
    Step s { s with supply, fetches, resolver }

/-- The sessions that come about of a new one. -/
inductive Reachable (shortIdLength : Int) (typing pasting : Nat) : Session → Prop
  | new (supply : Supply) : Reachable shortIdLength typing pasting
      { registry := { shortIdLength }, supply
        typing := { delay := typing }, pasting := { delay := pasting } }
  | step {s s' : Session} (hr : Reachable shortIdLength typing pasting s) (hs : Step s s') :
    Reachable shortIdLength typing pasting s'

/-- What others do to the registry is an event. -/
theorem Follows.change (hs : s.Follows (after shortIdLength typing pasting es))
    {change : Registry → Registry} {e : RegistryHistory.Event}
    (he : ∀ r : RegistryHistory, (r.happen e).registry = change r.registry) :
    Follows { s with registry := change s.registry }
      (after shortIdLength typing pasting (.registry e :: es)) := by
  have hbound := bound_after shortIdLength typing pasting es
  refine hs.map (f := fun t => { t with registry := change t.registry }) (fun _ _ _ _ => rfl) ?_
    hs.resting
  show ({ (after shortIdLength typing pasting es).session with registry := _ } : Session) = _
  rw [he, ← hbound]

theorem Step.exists_follows (hstep : s.Step s')
    (hs : s.Follows (after shortIdLength typing pasting es)) :
    ∃ es', s'.Follows (after shortIdLength typing pasting es') := by
  have hloaded : ∀ {t : Session} {es : List Event},
      t.Follows (after shortIdLength typing pasting es) →
      ∃ es', t.load.Follows (after shortIdLength typing pasting es') := by
    intro t es ht
    obtain ⟨es', hl⟩ := ht.like.load
    exact ⟨es', hl, fun surface => debouncer_load t surface ▸ ht.resting surface⟩
  have hcleared : Follows { s with registry := s.registry.clear }
      (after shortIdLength typing pasting (.registry .clear :: es)) := hs.change fun _ => rfl
  cases hstep with
  | insert r =>
    exact ⟨.insert r :: es, hs.map (f := (·.insert r)) (fun _ _ _ _ => rfl) rfl hs.resting⟩
  | replaceBy t =>
    obtain ⟨es', hl⟩ := hloaded hs
    exact ⟨.replaced t :: es',
      hl.map (f := (·.replaceLoaded (cleaned t))) (fun _ _ _ _ => rfl) rfl hl.resting⟩
  | replaceByContent c =>
    refine ⟨.replaceByContent c :: es,
      hs.map (f := (·.replaceByContent c)) (fun _ _ _ _ => ?_) rfl ?_⟩
    · unfold Session.replaceByContent
      split <;> rfl
    · unfold Session.replaceByContent
      split <;> exact hs.resting
  | takeIn surface now html =>
    refine ⟨.takeIn surface now html :: es,
      hs.map (f := (·.takeIn surface now html)) (fun _ _ _ _ => ?_) rfl fun other => ?_⟩
    · cases surface <;> rfl
    · have hrest := hs.resting other
      cases surface <;> cases other <;> exact hrest
  | recognize =>
    obtain ⟨es', hl⟩ := hloaded hs
    exact ⟨.asked :: es', hl.map (f := recognizeLoaded) (fun _ _ _ _ => rfl) rfl hl.resting⟩
  | flush => exact hs.flush
  | advance moment => exact hs.advance moment
  | clear =>
    refine ⟨.clear :: es, hs.map (f := Session.clear) (fun _ _ _ _ => rfl) rfl fun surface => ?_⟩
    have hrest := hs.resting surface
    cases surface <;> exact hrest
  | close =>
    refine ⟨.close :: es, hs.map (f := Session.close) (fun _ _ _ _ => rfl) rfl fun surface => ?_⟩
    have hrest := hs.resting surface
    cases surface <;> exact hrest
  | store =>
    exact ⟨.stored :: es, hs.map (f := (·.storageText.2)) (fun _ _ _ _ => rfl) rfl hs.resting⟩
  | resolve => exact hloaded hcleared
  | load => exact hloaded hs
  | clearRegistry => exact ⟨_, hcleared⟩
  | register rs => exact ⟨.registry (.register rs) :: es, hs.change fun _ => rfl⟩
  | outside supply fetches resolver =>
    exact ⟨es, hs.like.outside supply fetches resolver, hs.resting⟩

/-- **A session follows what happens to one after some sequence of events.** -/
theorem exists_after_of_reachable (hr : Reachable shortIdLength typing pasting s) :
    ∃ es, s.Follows (after shortIdLength typing pasting es) := by
  induction hr with
  | new supply => exact ⟨[], rfl, fun surface => by cases surface <;> exact ⟨rfl, rfl⟩⟩
  | step _ hs ih =>
    obtain ⟨es, hl⟩ := ih
    exact hs.exists_follows hl

end LiveText.Session
