import LiveText.Proofs.Identifier.Tokens
import LiveText.Proofs.Registry.Recall
import LiveText.Session.Basic

/-!
# What happens to a session

A `SessionHistory` is a session together with what happened to the registry that it is bound to, which
others use as well. Things happen in any order (`Event`), and between any two of them there may be any
others: a write, the end of a timer, the start of a recognition that waited behind another one, its end
once the registry is loaded, a load, the end of a fetch, a registration.

A recognition takes time only where it waits for the registry. So it is made of events: its surface has
it started (`due`, or `admitted` behind another one), the registry is loaded, or a fetch of somebody
else is waited for, and then it ends (`recognized`, or `failed`). Recognitions that nobody scheduled
end whenever they like (`asked`).

The content never goes back: `Current` says what it is made of. It depends on the latest write and on
the recognitions that ended since, and each of these is given the raw text of the moment before it ends.

## What is here

* `Event`, `happen` and `after`: the runs of events, the latest one first.
* `lastWritten` and `recognizedSince`: what is told of the content by the events alone.
* **`current_after`** is what is promised of the content.
-/

set_option autoImplicit false

namespace LiveText

/-! ## The empty document -/

theorem rawText_nil : rawText [] = [] := by decide +kernel

theorem plainText_nil : plainText [] = [] := by decide +kernel

theorem Content.ofHtml_nil : Content.ofHtml [] = {} := by
  rw [ofHtml, rawText_nil, plainText_nil]

theorem Content.ofRaw_nil (r : Renderer) : Content.ofRaw r [] = {} := Content.ofHtml_nil

theorem replaceIdentifiers_nil (f : Identifier → Option Text) : replaceIdentifiers f [] = [] :=
  congrArg (substitute fun i => (f i).getD i.text) (tokensAfter_nil none)

theorem Snapshot.toDisplayForm_nil (s : Snapshot) (length : Int) :
    s.toDisplayForm length [] = [] := by
  have hsettled : separate (collapse []) = [] := by decide +kernel
  rw [toDisplayForm, hsettled, replaceIdentifiers_nil]

theorem Snapshot.toSystemForm_nil (s : Snapshot) : s.toSystemForm [] = [] := by
  have hsettled : separate [] = [] := by decide +kernel
  rw [toSystemForm, hsettled, replaceIdentifiers_nil]

/-! ## Recognizing -/

/-- What a recognition makes of a content, once the registry is loaded. -/
def Registry.recognize (g : Registry) (c : Content) : Content :=
  .ofRaw (.ofRegistry g) (g.snapshot.toDisplayForm g.shortIdLength c.raw)

theorem Registry.recognize_empty (g : Registry) : g.recognize {} = {} := by
  rw [recognize, Snapshot.toDisplayForm_nil, Content.ofRaw_nil]

namespace Session

theorem announce_self (t : Text) (s : Session) : s.announce t t = s := by
  rw [announce, Update.between?, if_pos rfl, Option.toList_none, List.append_nil]

/-- There is nothing to recognize in an empty document. -/
theorem recognizeLoaded_of_empty {s : Session} (h : s.content = {}) : s.recognizeLoaded = s := by
  have hraw : s.content.raw = [] := congrArg Content.raw h
  have hdisplayed : s.toDisplayForm [] = ([], s) := by
    rw [toDisplayForm, Snapshot.toDisplayForm_nil, announce_self]
  calc s.recognizeLoaded
    _ = s.setRaw [] := by rw [recognizeLoaded, replaceLoaded, hraw, hdisplayed]
    _ = { s with content := {} } := congrArg (fun c => { s with content := c }) (Content.ofRaw_nil _)
    _ = s := by rw [← h]

/-- There is nothing to store of an empty document. -/
theorem storageText_of_empty {s : Session} (h : s.content = {}) : s.storageText.2 = s := by
  have hraw : s.content.raw = [] := congrArg Content.raw h
  rw [storageText, hraw, Snapshot.toSystemForm_nil, announce_self]

theorem content_modifyDebouncer (f : Debouncer → Debouncer) (s : Session) (surface : Surface) :
    (s.modifyDebouncer f surface).content = s.content := by
  cases surface <;> rfl

theorem announced_modifyDebouncer (f : Debouncer → Debouncer) (s : Session) (surface : Surface) :
    (s.modifyDebouncer f surface).announced = s.announced := by
  cases surface <;> rfl

end Session

/-! ## Histories -/

/-- A session with what happened to its registry. -/
structure SessionHistory where
  session : Session
  registry : RegistryHistory

namespace SessionHistory

/-- One thing that happens to a session. -/
inductive Event
  /-- something happens to the registry, by this session or by others -/
  | registry (e : RegistryHistory.Event)
  | takeIn (surface : Surface) (now : Nat) (html : Text)
  | insert (r : Record)
  | replaceByContent (c : Content)
  /-- a text from outside has waited for the registry -/
  | replaced (t : Text)
  | clear
  | close
  /-- the content is read to be stored -/
  | stored
  /-- the timer of a surface is over, or who flushes it does not wait for that -/
  | due (surface : Surface)
  /-- the next recognition that waits for others of its surface goes on -/
  | admitted (surface : Surface)
  /-- the recognition of a surface that is going on has waited for the registry -/
  | recognized (surface : Surface)
  /-- the recognition of a surface that is going on ends without having done anything -/
  | failed (surface : Surface)
  /-- a recognition that no surface scheduled has waited for the registry -/
  | asked

/-- The content is replaced by what somebody wants it to be. -/
def Event.writes : Event → Bool
  | .takeIn .. | .insert _ | .replaceByContent _ | .replaced _ | .clear => true
  | _ => false

/-- A step of the session alone. -/
def modify (f : Session → Session) (h : SessionHistory) : SessionHistory :=
  { h with session := f h.session }

/-- The recognition of a surface that is going on ends. -/
def release (surface : Surface) (f : Session → Session) (h : SessionHistory) : SessionHistory :=
  if (h.session.debouncer surface).running then
    h.modify fun s => (f s).modifyDebouncer Debouncer.release surface
  else h

/-- The history with one more event. -/
def happen (e : Event) (h : SessionHistory) : SessionHistory :=
  match e with
  | .registry e =>
    { session := { h.session with registry := (h.registry.happen e).registry }
      registry := h.registry.happen e }
  | .takeIn surface now html => h.modify (·.takeIn surface now html)
  | .insert r => h.modify (·.insert r)
  | .replaceByContent c => h.modify (·.replaceByContent c)
  | .replaced t => h.modify (·.replaceLoaded (Session.cleaned t))
  | .clear => h.modify Session.clear
  | .close => h.modify Session.close
  | .stored => h.modify (·.storageText.2)
  | .due surface => h.modify (·.modifyDebouncer Debouncer.fire surface)
  | .admitted surface => h.modify (·.modifyDebouncer Debouncer.takeNext surface)
  | .recognized surface => h.release surface Session.recognizeLoaded
  | .failed surface => h.release surface id
  | .asked => h.modify Session.recognizeLoaded

/-- An event is the end of a recognition. -/
def recognizes (e : Event) (h : SessionHistory) : Bool :=
  match e with
  | .recognized surface => (h.session.debouncer surface).running
  | .asked => true
  | _ => false

section
variable (shortIdLength : Int) (typing pasting : Nat)

/-- The history of a new session, with the delays of its surfaces, to which events happened, the
latest one first. -/
def after : List Event → SessionHistory
  | [] =>
    { session :=
        { registry := { shortIdLength }, typing := { delay := typing }, pasting := { delay := pasting } }
      registry := .new shortIdLength }
  | e :: es => (after es).happen e

/-- The content right after the latest write. -/
def lastWritten : List Event → Content
  | [] => {}
  | e :: es =>
    if e.writes then (after shortIdLength typing pasting (e :: es)).session.content
    else lastWritten es

/-- The registries that the recognitions were given that ended since the latest write, the latest one
first. -/
def recognizedSince : List Event → List Registry
  | [] => []
  | e :: es =>
    let h := after shortIdLength typing pasting es
    if e.writes then []
    else if h.recognizes e then h.session.registry :: recognizedSince es
    else recognizedSince es

end

/-! ## What a step does to the content -/

variable {h : SessionHistory} {e : Event}

/-- The end of a recognition brings the raw text of the moment before to display form. -/
theorem content_happen_of_recognizes (hr : h.recognizes e = true) :
    (h.happen e).session.content = h.session.registry.recognize h.session.content := by
  cases e with
  | recognized surface =>
    have hrunning : (h.session.debouncer surface).running = true := hr
    show (h.release surface Session.recognizeLoaded).session.content = _
    rw [release, if_pos hrunning]
    exact Session.content_modifyDebouncer _ _ _
  | asked => rfl
  | _ => exact absurd hr Bool.false_ne_true

/-- A recognition ends only if it is going on. -/
theorem release_cases (surface : Surface) (f : Session → Session) (h : SessionHistory) :
    h.release surface f = h ∨
      h.release surface f = h.modify fun s => (f s).modifyDebouncer Debouncer.release surface := by
  rw [release]
  split
  · exact .inr rfl
  · exact .inl rfl

/-- What neither writes nor is the end of a recognition leaves the content as it is. -/
theorem content_happen_of_not (hw : e.writes = false) (hr : h.recognizes e = false) :
    (h.happen e).session.content = h.session.content := by
  cases e with
  | registry e => rfl
  | close => rfl
  | stored => rfl
  | due surface => exact Session.content_modifyDebouncer _ _ _
  | admitted surface => exact Session.content_modifyDebouncer _ _ _
  | recognized surface =>
    have hidle : (h.session.debouncer surface).running = false := hr
    show (h.release surface Session.recognizeLoaded).session.content = _
    rw [release, if_neg (by rw [hidle]; exact Bool.false_ne_true)]
  | failed surface =>
    show (h.release surface id).session.content = _
    rcases h.release_cases surface id with heq | heq <;> rw [heq]
    exact Session.content_modifyDebouncer _ _ _
  | asked => cases hr
  | _ => cases hw

/-- Nothing is announced of an empty document. -/
theorem announced_happen_of_empty (hw : e.writes = false) (hempty : h.session.content = {}) :
    (h.happen e).session.announced = h.session.announced := by
  cases e with
  | registry e => rfl
  | close => rfl
  | stored => exact congrArg Session.announced (Session.storageText_of_empty hempty)
  | due surface => exact Session.announced_modifyDebouncer _ _ _
  | admitted surface => exact Session.announced_modifyDebouncer _ _ _
  | recognized surface =>
    show (h.release surface Session.recognizeLoaded).session.announced = _
    rcases h.release_cases surface Session.recognizeLoaded with heq | heq <;> rw [heq]
    exact (Session.announced_modifyDebouncer _ _ _).trans
      (congrArg Session.announced (Session.recognizeLoaded_of_empty hempty))
  | failed surface =>
    show (h.release surface id).session.announced = _
    rcases h.release_cases surface id with heq | heq <;> rw [heq]
    exact Session.announced_modifyDebouncer _ _ _
  | asked => exact congrArg Session.announced (Session.recognizeLoaded_of_empty hempty)
  | _ => cases hw

/-! ## The registry -/

theorem registry_modifyDebouncer (f : Debouncer → Debouncer) (s : Session) (surface : Surface) :
    (s.modifyDebouncer f surface).registry = s.registry := by
  cases surface <;> rfl

theorem session_registry_release (surface : Surface) {f : Session → Session}
    (hf : ∀ s, (f s).registry = s.registry) (h : SessionHistory) :
    (h.release surface f).session.registry = h.session.registry := by
  rcases h.release_cases surface f with heq | heq <;> rw [heq]
  exact (registry_modifyDebouncer _ _ _).trans (hf _)

theorem registry_release (surface : Surface) (f : Session → Session) (h : SessionHistory) :
    (h.release surface f).registry = h.registry := by
  rcases h.release_cases surface f with heq | heq <;> rw [heq]
  rfl

/-- The session is bound to the registry, and only what happens to that changes it. -/
theorem bound_happen (hb : h.session.registry = h.registry.registry) (e : Event) :
    (h.happen e).session.registry = (h.happen e).registry.registry := by
  cases e with
  | registry e => rfl
  | due surface => exact (registry_modifyDebouncer _ _ _).trans hb
  | admitted surface => exact (registry_modifyDebouncer _ _ _).trans hb
  | takeIn surface now html => exact (registry_modifyDebouncer _ _ _).trans hb
  | recognized surface =>
    exact (@session_registry_release surface Session.recognizeLoaded (fun _ => rfl) h).trans
      (hb.trans (congrArg _ (registry_release surface _ h).symm))
  | failed surface =>
    exact (@session_registry_release surface id (fun _ => rfl) h).trans
      (hb.trans (congrArg _ (registry_release surface _ h).symm))
  | replaceByContent c =>
    refine Eq.trans ?_ hb
    show (h.session.replaceByContent c).registry = _
    rw [Session.replaceByContent]
    split <;> rfl
  | _ => exact hb

/-! ## What a run does to the content -/

section
variable (shortIdLength : Int) (typing pasting : Nat)

theorem bound_after (es : List Event) :
    (after shortIdLength typing pasting es).session.registry =
      (after shortIdLength typing pasting es).registry.registry := by
  induction es with
  | nil => rfl
  | cons e es ih => exact bound_happen ih e

/-- What happened to the registry of a session is a run of its own. -/
theorem exists_registry_after (es : List Event) : ∃ rs,
    (after shortIdLength typing pasting es).registry = RegistryHistory.after shortIdLength rs := by
  induction es with
  | nil => exact ⟨[], rfl⟩
  | cons e es ih =>
    obtain ⟨rs, hrs⟩ := ih
    cases e with
    | registry e => exact ⟨e :: rs, congrArg (RegistryHistory.happen e) hrs⟩
    | recognized surface => exact ⟨rs, (registry_release surface _ _).trans hrs⟩
    | failed surface => exact ⟨rs, (registry_release surface _ _).trans hrs⟩
    | _ => exact ⟨rs, hrs⟩

/-- No two records of a session have the same key. -/
theorem nodup_records_after (es : List Event) :
    ((after shortIdLength typing pasting es).session.snapshot.records.map Record.key).Nodup := by
  obtain ⟨rs, hrs⟩ := exists_registry_after shortIdLength typing pasting es
  have hsound := (RegistryHistory.reachable_after shortIdLength rs).invariant.2
  rw [← hrs] at hsound
  rw [Session.snapshot, bound_after]
  exact hsound.distinct

/-- The content is what the recognitions since the latest write made of it. -/
theorem content_after (es : List Event) :
    (after shortIdLength typing pasting es).session.content =
      (recognizedSince shortIdLength typing pasting es).foldr Registry.recognize
        (lastWritten shortIdLength typing pasting es) := by
  induction es with
  | nil => rfl
  | cons e es ih =>
    rw [recognizedSince, lastWritten]
    cases hw : e.writes with
    | true => rfl
    | false =>
      cases hr : (after shortIdLength typing pasting es).recognizes e with
      | true => exact (content_happen_of_recognizes hr).trans (congrArg _ ih)
      | false => exact (content_happen_of_not hw hr).trans ih

/-- An empty document stays empty until it is written to, and nothing is announced. -/
theorem empty_after {es : List Event} (later : List Event)
    (hempty : (after shortIdLength typing pasting es).session.content = {})
    (hw : ∀ e ∈ later, e.writes = false) :
    (after shortIdLength typing pasting (later ++ es)).session.content = {} ∧
      (after shortIdLength typing pasting (later ++ es)).session.announced =
        (after shortIdLength typing pasting es).session.announced := by
  induction later with
  | nil => exact ⟨hempty, rfl⟩
  | cons e later ih =>
    have hwrites := hw e List.mem_cons_self
    obtain ⟨hcontent, hannounced⟩ := ih fun e he => hw e (List.mem_cons_of_mem _ he)
    refine ⟨?_, (announced_happen_of_empty hwrites hcontent).trans hannounced⟩
    show ((after shortIdLength typing pasting (later ++ es)).happen e).session.content = {}
    cases hr : (after shortIdLength typing pasting (later ++ es)).recognizes e with
    | true =>
      rw [content_happen_of_recognizes hr, hcontent]
      exact Registry.recognize_empty _
    | false => exact (content_happen_of_not hwrites hr).trans hcontent

/-! ## What is promised of the content -/

/-- What is promised of the content of a session to which events happened. -/
structure Current (es : List Event) : Prop where
  /-- a recognition that ends brings the raw text of that moment to display form -/
  recognized : ∀ e, (after shortIdLength typing pasting es).recognizes e = true →
    let s := (after shortIdLength typing pasting es).session
    (after shortIdLength typing pasting (e :: es)).session.content =
      .ofRaw s.renderer (s.snapshot.toDisplayForm s.registry.shortIdLength s.content.raw)
  /-- what neither writes nor is the end of a recognition leaves the content as it is -/
  kept : ∀ e, e.writes = false → (after shortIdLength typing pasting es).recognizes e = false →
    (after shortIdLength typing pasting (e :: es)).session.content =
      (after shortIdLength typing pasting es).session.content
  /-- so nothing counts but the latest write and the recognitions that ended since -/
  latest : (after shortIdLength typing pasting es).session.content =
    (recognizedSince shortIdLength typing pasting es).foldr Registry.recognize
      (lastWritten shortIdLength typing pasting es)
  /-- a document that was emptied stays empty until the next write, and nothing is announced -/
  cleared : ∀ later, (∀ e ∈ later, e.writes = false) →
    (after shortIdLength typing pasting (later ++ .clear :: es)).session.content = {} ∧
      (after shortIdLength typing pasting (later ++ .clear :: es)).session.announced =
        (after shortIdLength typing pasting es).session.announced

/-- **A recognition never brings back old text**, in whatever order writes, timers, recognitions and the
loads that they wait for come. -/
theorem current_after (es : List Event) : Current shortIdLength typing pasting es where
  recognized := fun _ hr => content_happen_of_recognizes hr
  kept := fun _ hw hr => content_happen_of_not hw hr
  latest := content_after shortIdLength typing pasting es
  cleared := fun later hw =>
    @empty_after shortIdLength typing pasting (.clear :: es) later rfl hw

end

/-- Typed text waits for the registry when other text is pasted; the first recognition goes on with
what was pasted, and after a clear the second one finds nothing. -/
theorem current_after_paste :
    let es : List Event := [.due .pasting, .takeIn .pasting 90 "<p>new</p>".toList,
      .registry .load, .due .typing, .takeIn .typing 0 "<p>old</p>".toList]
    (after 4 300 100 (.recognized .typing :: es)).session.content.raw = "new".toList ∧
      (after 4 300 100 (.recognized .pasting :: .close :: .recognized .typing :: .clear ::
        es)).session.content = {} := by
  intro es
  refine ⟨?_, ?_⟩
  · rw [(current_after 4 300 100 es).recognized (.recognized .typing) (by decide +kernel)]
    decide +kernel
  · exact ((current_after 4 300 100 es).cleared
      [.recognized .pasting, .close, .recognized .typing] (by decide)).1

end SessionHistory
end LiveText
