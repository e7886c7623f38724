import Mathlib.Data.List.Basic
import LiveText.Proofs.Registry.Coherence
import LiveText.Proofs.Registry.Lookup

/-!
# Records in batches

Records come in batches: the entries of a catalog, and the records that are registered locally. It
does not matter how they are cut into batches. Of several records with one key the first one is kept,
and the keys stay in the order in which they first appear (`FirstOfEachKey`), which is what every
order of merging leaves of all the records in a row.

## What is here

* `firstOfEachKey_iff`: what merging leaves is told by the keys alone.
* `records_append`: a catalog that comes in two parts; `records_of_isObject`: entries always give
  records.
* `register_register`, `newLocals_add`: what is registered in two parts.
* **`batches_merge`** puts them together.
-/

set_option autoImplicit false

namespace LiveText

/-! ## The first record of each key -/

namespace Record

/-- Of a list of records the first one of each key is kept, and the order stays. -/
structure FirstOfEachKey (rs kept : List Record) : Prop where
  nodup : (kept.map key).Nodup
  /-- the keys come in the order in which they first appear -/
  keys : kept.map key = (rs.map key).eraseDups
  /-- the record of a key is the first one that has it -/
  first : ∀ k, kept.find? (·.key == k) = rs.find? (·.key == k)
  /-- nothing is moved -/
  sublist : kept.Sublist rs

theorem firstOfEachKey_distinct (rs : List Record) : FirstOfEachKey rs (distinct rs) where
  nodup := nodup_distinct rs
  keys := map_key_distinct rs
  first k := find?_distinct k rs
  sublist := sublist_distinct rs

/-- Records with different keys are what is found under their keys, in order. -/
theorem filterMap_find?_key {rs : List Record} (h : (rs.map key).Nodup) :
    (rs.map key).filterMap (fun k => rs.find? (·.key == k)) = rs := by
  rw [List.filterMap_map]
  calc rs.filterMap ((fun k => rs.find? (·.key == k)) ∘ key)
    _ = rs.filterMap some := List.filterMap_congr fun _ hr => Snapshot.find?_key h hr
    _ = rs := List.filterMap_some

/-- Keeping the first record of each key leaves no choice. -/
theorem firstOfEachKey_iff {rs kept : List Record} :
    FirstOfEachKey rs kept ↔ kept = distinct rs := by
  refine ⟨fun h => ?_, fun h => h ▸ firstOfEachKey_distinct rs⟩
  have hfirst : ∀ k, kept.find? (·.key == k) = (distinct rs).find? (·.key == k) := fun k =>
    (h.first k).trans (find?_distinct k rs).symm
  calc kept
    _ = (kept.map key).filterMap fun k => kept.find? (·.key == k) :=
      (filterMap_find?_key h.nodup).symm
    _ = ((distinct rs).map key).filterMap fun k => (distinct rs).find? (·.key == k) := by
      rw [h.keys, map_key_distinct, funext hfirst]
    _ = distinct rs := filterMap_find?_key (nodup_distinct rs)

end Record

/-! ## Catalogs in two parts -/

namespace Catalog

/-- The entries of a catalog give records, the first one of each key. -/
theorem records_of_isObject {es : List Value} (h : ∀ e ∈ es, e.isObject = true) :
    records es = .ok (Record.distinct (es.filterMap recordOf)) := by
  have hmap : es.mapM record? = .ok (es.map recordOf) := by
    induction es with
    | nil => rfl
    | cons e es ih =>
      have hhead : record? e = .ok (recordOf e) := if_pos (h e List.mem_cons_self)
      rw [List.mapM_cons, hhead, ih fun f hf => h f (List.mem_cons_of_mem e hf)]
      rfl
  rw [records, hmap, Except.map, List.filterMap_map]
  rfl

/-- What a catalog gives that comes in two parts. Where one of them holds something that is no entry,
the first such thing is reported. -/
theorem records_append (es fs : List Value) :
    records (es ++ fs) = (records es).bind fun rs => (records fs).map (Record.merge rs) := by
  rw [records, records, records, List.mapM_append]
  cases es.mapM record? with
  | error e => rfl
  | ok os =>
    cases fs.mapM record? with
    | error e => rfl
    | ok qs =>
      refine congrArg Except.ok ?_
      show Record.distinct ((os ++ qs).filterMap id) =
        Record.merge (Record.distinct (os.filterMap id)) (Record.distinct (qs.filterMap id))
      rw [List.filterMap_append, Record.merge_distinct_right, Record.merge_distinct]

end Catalog

/-! ## Registering in two parts -/

namespace Registry

theorem register_register (g : Registry) (rs ss : List Record) :
    (g.register rs).register ss = g.register (rs ++ ss) := by
  simp only [register, Record.merge_merge]

theorem locals_register_register (g : Registry) (rs ss : List Record) :
    ((g.register rs).register ss).locals = (g.register (rs ++ ss)).locals :=
  Record.merge_merge g.locals rs ss

/-- The local records go on with what is registered. -/
theorem length_locals_le_register (g : Registry) (h : Record.distinct g.locals = g.locals)
    (rs : List Record) : g.locals.length ≤ (g.register rs).locals.length := by
  have hprefix := Record.distinct_prefix_append g.locals rs
  rw [h] at hprefix
  exact hprefix.length_le

/-- The numbers of new records add up. -/
theorem newLocals_add {g : Registry} (h : Record.distinct g.locals = g.locals)
    (rs ss : List Record) :
    g.newLocals rs + (g.register rs).newLocals ss = g.newLocals (rs ++ ss) := by
  have hcount : ∀ (k : Registry) qs,
      k.newLocals qs = (k.register qs).locals.length - k.locals.length := fun _ _ => rfl
  have hrs := length_locals_le_register g h rs
  have hss := length_locals_le_register (g.register rs) (Record.distinct_distinct _) ss
  rw [hcount, hcount, hcount]
  rw [locals_register_register] at hss ⊢
  omega

end Registry

theorem RegistryHistory.Reachable.distinct_locals {h : RegistryHistory} (hr : h.Reachable) :
    Record.distinct h.registry.locals = h.registry.locals := by
  rw [hr.invariant.2.locals, Record.distinct_distinct]

/-! ## All batches -/

/-- **It does not matter how records are cut into batches.** Merging is associative and keeps the
first record of each key, in order; a catalog in two parts gives what its parts give, merged; and what
is registered in two parts leaves the registry as if it were registered at once, and is counted
alike. -/
theorem batches_merge :
    (∀ ps qs ss, Record.merge (Record.merge ps qs) ss = Record.merge ps (Record.merge qs ss)) ∧
    (∀ ps ss kept, Record.FirstOfEachKey (ps ++ ss) kept ↔ kept = Record.merge ps ss) ∧
    (∀ es fs : List Value, Catalog.records (es ++ fs) =
      (Catalog.records es).bind fun rs => (Catalog.records fs).map (Record.merge rs)) ∧
    (∀ es : List Value, (∀ e ∈ es, e.isObject = true) → ∃ rs, Catalog.records es = .ok rs) ∧
    (∀ (g : Registry) (rs ss : List Record),
      (g.register rs).register ss = g.register (rs ++ ss)) ∧
    ∀ h : RegistryHistory, h.Reachable → ∀ rs ss : List Record,
      h.registry.newLocals rs + (h.registry.register rs).newLocals ss =
        h.registry.newLocals (rs ++ ss) :=
  ⟨Record.merge_assoc, fun _ _ _ => Record.firstOfEachKey_iff, Catalog.records_append,
    fun _ h => ⟨_, Catalog.records_of_isObject h⟩, Registry.register_register,
    fun _ hr => Registry.newLocals_add hr.distinct_locals⟩

/-- A catalog whose second part brings a key of the first one again, and records that are registered
while the catalog is fetched, some of them twice. -/
theorem batches_merge_overlapping :
    let record (id value : String) : Record :=
      { id := id.toList, sourceName := [], field := "hp".toList, value := value.toList }
    let entry (id value : String) : Value :=
      .object [("id".toList, .text id.toList), ("field".toList, .text "hp".toList),
        ("value".toList, .text value.toList)]
    let rs := [record "a1" "1", record "b2" "2"]
    let ss := [record "b2" "3", record "c3" "4", record "a1" "5"]
    let g := ((RegistryHistory.new 4).load.register [record "c3" "0"]).registry
    Record.merge rs ss = [record "a1" "1", record "b2" "2", record "c3" "4"] ∧
      Record.FirstOfEachKey (rs ++ ss) (Record.merge rs ss) ∧
      Catalog.records ([entry "a1" "1", entry "b2" "2"] ++ [entry "b2" "3"]) = .ok rs ∧
      (∃ qs, Catalog.records [entry "b2" "3", entry "c3" "4"] = .ok qs) ∧
      (g.register rs).register ss = g.register (rs ++ ss) ∧
      g.newLocals rs + (g.register rs).newLocals ss = g.newLocals (rs ++ ss) ∧
      g.newLocals (rs ++ ss) = 2 := by
  intro record entry rs ss g
  obtain ⟨-, hfirst, hcatalog, hentries, hregister, hcount⟩ := batches_merge
  have hreachable : ((RegistryHistory.new 4).load.register [record "c3" "0"]).Reachable :=
    .step (.step (.new 4) .load) (.register _)
  have hobjects : ∀ e ∈ [entry "b2" "3", entry "c3" "4"], e.isObject = true := by
    simp [entry, Value.isObject]
  exact ⟨by decide, (hfirst rs ss _).2 rfl, (hcatalog _ _).trans rfl, hentries _ hobjects,
    hregister g rs ss, hcount _ hreachable rs ss, by decide⟩

end LiveText
