import LiveText.Proofs.Registry.Recall

/-!
# What a failed fetch leaves in a registry

When a fetch of the present generation fails, the registry falls back on the records that it dropped
last. No record of the last good fetch is lost by this, in whatever order clears, failures,
registrations and late answers came (`lastFetched_subset_of_failure`).

What was registered meanwhile fares worse. The dropped records are as they were when they were
dropped, so a record that was registered since is not among them: it is out of sight until the next
clear, registration or good fetch (`registered_visible_iff`). And a registration starts again from
the fetched and the local records, so that it ends the fallback: what was only among the dropped
records is out of sight from then on (`visible_register_iff`).
-/

set_option autoImplicit false

namespace LiveText.RegistryHistory

/-! ## The last good fetch -/

/-- The fetch that counted last brought records with different keys. -/
theorem nodup_lastFetched {n : Int} {es : List Event} {rs : List Record}
    (h : lastFetched n es = some rs) : (rs.map Record.key).Nodup := by
  induction es with
  | nil => cases h
  | cons e es ih =>
    cases e with
    | answered f outcome =>
      rw [lastFetched] at h
      split at h
      · next qs hends =>
        rw [ending] at hends
        split at hends
        · cases h
          exact FetchOutcome.nodup_records (Option.some.inj hends)
        · cases hends
      · exact ih h
    | load => exact ih h
    | clear => exact ih h
    | register rs => exact ih h
    | giveUp number => exact ih h

/-- What was fetched last is among the dropped records. -/
theorem lastFetched_subset_dropped {n : Int} {es : List Event} {rs : List Record}
    (h : lastFetched n es = some rs) : rs ⊆ dropped n es := by
  intro r hr
  have hfind := Snapshot.find?_key (nodup_lastFetched h) hr
  have hmerge := Record.find?_merge r.key rs (Record.distinct (registeredAtDrop n es))
  rw [hfind, Option.some_or] at hmerge
  rw [dropped, h]
  exact List.mem_of_find?_eq_some hmerge

/-- **A failed fetch loses no record of the last good one**: those who wait for it are given all of
them, and lookups find each of them under its key. -/
theorem lastFetched_subset_of_failure {n : Int} {es : List Event} {f : StartedFetch}
    {outcome : FetchOutcome} (hf : f ∈ (after n es).running)
    (hgen : f.generation = (after n es).registry.generation) {e : FetchError}
    (herror : FetchOutcome.records outcome = .error e) {rs : List Record}
    (hlast : lastFetched n es = some rs) :
    rs ⊆ ((after n es).registry.complete f.generation (FetchOutcome.records outcome)).1 ∧
      rs ⊆ (after n (.answered f outcome :: es)).registry.snapshot.records ∧
      ∀ r ∈ rs, (after n (.answered f outcome :: es)).registry.snapshot.findByIdAndField
        r.id r.field = some r := by
  have hreached := reachable_after n (.answered f outcome :: es)
  have hrecalled := recalled_after n (.answered f outcome :: es)
  have hending : (after n es).ending f outcome = some (.error e) := by
    rw [ending_of_current _ hf hgen, herror]
  have hlast' : lastFetched n (.answered f outcome :: es) = some rs := by
    rw [lastFetched, hending]
    exact hlast
  have hback : fellBack n (.answered f outcome :: es) = !rs.isEmpty := by
    rw [fellBack, hending, hlast]
    rfl
  have hsubset : rs ⊆ (after n (.answered f outcome :: es)).registry.records := by
    rw [hrecalled.records, hback]
    cases rs with
    | nil => exact List.nil_subset _
    | cons r rs => exact lastFetched_subset_dropped hlast'
  -- those who wait are given what the registry answers from now on
  have hgiven : ((after n es).registry.complete f.generation (FetchOutcome.records outcome)).1 =
      (after n (.answered f outcome :: es)).registry.records := by
    rw [registry_answered_error hf hgen herror, herror]
    rfl
  refine ⟨hgiven ▸ hsubset, hsubset, fun r hr => ?_⟩
  have hfind := Snapshot.find?_key hreached.invariant.2.distinct (hsubset hr)
  rw [Snapshot.findByIdAndField_eq, Option.or_eq_some_iff]
  exact .inl hfind

/-- A fetch brings a record and is dropped by a clear; the next one is overtaken by a second clear,
and the one after that fails, as the late one does in the end. -/
theorem lastFetched_subset_of_failure_twice :
    let entry : Value := .object
      [("id".toList, .text "a1".toList), ("name".toList, .text "hp".toList)]
    let hp : Record :=
      { id := "a1".toList, sourceName := "hp".toList, field := "hp".toList, name := "hp".toList }
    let mp : Record := { id := "b2".toList, sourceName := "npc".toList, field := "mp".toList }
    let down : FetchError := { endpoint := "catalog".toList }
    let es : List Event :=
      [.answered ⟨1, 1⟩ (.error down), .load, .clear, .register [mp], .load, .clear,
        .answered ⟨0, 0⟩ (.ok [entry]), .load]
    lastFetched 4 es = some [hp] ∧
      (after 4 (.answered ⟨2, 2⟩ (.error down) :: es)).registry.snapshot.findByIdAndField
        "a1".toList "hp".toList = some hp := by
  intro entry hp mp down es
  have hlast : lastFetched 4 es = some [hp] := by decide +kernel
  have hf : (⟨2, 2⟩ : StartedFetch) ∈ (after 4 es).running := by decide +kernel
  have hgen : 2 = (after 4 es).registry.generation := by decide +kernel
  have herror : FetchOutcome.records (.error down) = .error down := rfl
  exact ⟨hlast, (lastFetched_subset_of_failure hf hgen herror hlast).2.2 hp List.mem_cons_self⟩

/-! ## Registered records -/

/-- **When a registered record is visible**: always, unless the registry has fallen back on records
that were dropped, and these have no record with its key. -/
theorem registered_visible_iff {n : Int} {es : List Event} {r : Record}
    (hr : r ∈ (after n es).registered) :
    (r.key ∈ (after n es).registry.records.map Record.key ↔
      (fellBack n es = true → r.key ∈ (dropped n es).map Record.key)) ∧
    (r.id ≠ [] → r.field ≠ [] →
      ((∃ q, (after n es).registry.snapshot.findBySystemId r.id (some r.field) = some q ∧
        q.key = r.key) ↔ (fellBack n es = true → r.key ∈ (dropped n es).map Record.key))) := by
  have hlocal : r.key ∈ (after n es).registry.locals.map Record.key := by
    rw [(reachable_after n es).invariant.2.locals, Record.mem_keys_distinct]
    exact List.mem_map_of_mem hr
  have hvisible : r.key ∈ (after n es).registry.records.map Record.key ↔
      (fellBack n es = true → r.key ∈ (dropped n es).map Record.key) := by
    rw [(recalled_after n es).records]
    cases fellBack n es with
    | true => simp
    | false => simp [Record.mem_keys_merge, hlocal]
  refine ⟨hvisible, fun hid hfield => ?_⟩
  rw [Snapshot.findBySystemId_of_ne_nil _ hid hfield]
  exact Snapshot.findByIdAndField_key_iff.trans hvisible

/-- A record that is registered between a clear and a fetch that fails is not visible. -/
theorem registered_hidden_by_fallback :
    let entry : Value := .object
      [("id".toList, .text "a1".toList), ("name".toList, .text "hp".toList)]
    let mp : Record := { id := "b2".toList, sourceName := "npc".toList, field := "mp".toList }
    let es : List Event :=
      [.answered ⟨1, 1⟩ (.error { endpoint := "catalog".toList }), .load, .register [mp], .clear,
        .answered ⟨0, 0⟩ (.ok [entry]), .load]
    mp ∈ (after 4 es).registered ∧ mp.key ∉ (after 4 es).registry.records.map Record.key := by
  intro entry mp es
  have hr : mp ∈ (after 4 es).registered := by decide +kernel
  have hback : fellBack 4 es = true := by decide +kernel
  have hnone : mp.key ∉ (dropped 4 es).map Record.key := by decide +kernel
  exact ⟨hr, fun h => hnone ((registered_visible_iff hr).1.1 h hback)⟩

/-! ## Registering more -/

/-- **What a registration leaves visible**: all that it registers, and of what was visible before all
but the dropped records that the registry had fallen back on and that nobody had registered. -/
theorem visible_register_iff (n : Int) (es : List Event) (rs : List Record) :
    (∀ r ∈ rs, r.key ∈ (after n (.register rs :: es)).registry.records.map Record.key) ∧
    ∀ k ∈ (after n es).registry.records.map Record.key,
      (k ∈ (after n (.register rs :: es)).registry.records.map Record.key ↔
        (fellBack n es = true → k ∈ ((after n es).registered ++ rs).map Record.key)) := by
  obtain ⟨-, hs⟩ := (reachable_after n (.register rs :: es)).invariant
  have hrecalled := recalled_after n es
  have hafter : ∀ k, k ∈ (after n (.register rs :: es)).registry.records.map Record.key ↔
      k ∈ (after n es).registry.fetched.map Record.key ∨
        k ∈ ((after n es).registered ++ rs).map Record.key := by
    intro k
    have hrecords : (after n (.register rs :: es)).registry.records =
        Record.merge (after n es).registry.fetched
          (after n (.register rs :: es)).registry.locals := rfl
    rw [hrecords, Record.mem_keys_merge, hs.locals, Record.mem_keys_distinct]
    rfl
  refine ⟨fun r hr => ?_, fun k hk => ?_⟩
  · exact (hafter r.key).2 (.inr (List.mem_map_of_mem (List.mem_append_right _ hr)))
  rw [hafter]
  cases hback : fellBack n es with
  | true =>
    -- a registry that has fallen back is not loaded, and holds no fetched records
    have hunloaded : (after n es).registry.loaded = false := by
      rw [Bool.eq_false_iff]
      intro hl
      rw [(hrecalled.loaded hl).2.2] at hback
      exact Bool.noConfusion hback
    rw [(hrecalled.unloaded hunloaded).1]
    simp
  | false =>
    rw [hrecalled.records, hback, if_neg Bool.false_ne_true, Record.mem_keys_merge,
      (reachable_after n es).invariant.2.locals, Record.mem_keys_distinct] at hk
    have hmore : k ∈ (after n es).registered.map Record.key →
        k ∈ ((after n es).registered ++ rs).map Record.key := by
      rw [List.map_append]
      exact List.mem_append_left _
    exact iff_of_true (hk.imp_right hmore) (fun h => Bool.noConfusion h)

/-- A fetched record that the registry has fallen back on is not visible any more once another
record is registered. -/
theorem visible_lost_by_registering :
    let entry : Value := .object
      [("id".toList, .text "a1".toList), ("name".toList, .text "hp".toList)]
    let mp : Record := { id := "b2".toList, sourceName := "npc".toList, field := "mp".toList }
    let k := ("a1".toList, "hp".toList)
    let es : List Event :=
      [.answered ⟨1, 1⟩ (.error { endpoint := "catalog".toList }), .load, .clear,
        .answered ⟨0, 0⟩ (.ok [entry]), .load]
    k ∈ (after 4 es).registry.records.map Record.key ∧
      k ∉ (after 4 (.register [mp] :: es)).registry.records.map Record.key := by
  intro entry mp k es
  have hk : k ∈ (after 4 es).registry.records.map Record.key := by decide +kernel
  have hback : fellBack 4 es = true := by decide +kernel
  have hnone : k ∉ ((after 4 es).registered ++ [mp]).map Record.key := by decide +kernel
  exact ⟨hk, fun h => hnone (((visible_register_iff 4 es [mp]).2 k hk).1 h hback)⟩

end LiveText.RegistryHistory
