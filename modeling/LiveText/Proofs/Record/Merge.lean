import LiveText.Record.Basic

/-!
# Merging records

What `Record.distinct` and `Record.merge` keep, by keys: every key of the lists is kept once, under
the first record that has it.

## What is here

* `nodup_distinct`: the keys of what is kept are pairwise different.
* `find?_distinct` and `find?_merge`: looking a key up in what is kept is looking it up in the lists.
* `merge_distinct`: what is merged bit by bit is merged at once; `merge_assoc`: in whatever order.
* `mem_keys_merge`: merging loses no key and makes none up.
* `map_key_distinct`: the keys stay in the order in which they first appear.
-/

set_option autoImplicit false

namespace LiveText.Record

/-! ## First records -/

theorem distinctFrom_of_mem {seen : List (Text × Text)} {r : Record} (h : r.key ∈ seen)
    (rs : List Record) : distinctFrom seen (r :: rs) = distinctFrom seen rs := by
  rw [distinctFrom, if_pos h]

theorem distinctFrom_of_not_mem {seen : List (Text × Text)} {r : Record} (h : r.key ∉ seen)
    (rs : List Record) :
    distinctFrom seen (r :: rs) = r :: distinctFrom (r.key :: seen) rs := by
  rw [distinctFrom, if_neg h]

/-- What is kept has no key that was seen before. -/
theorem key_not_mem_of_mem_distinctFrom {seen : List (Text × Text)} {rs : List Record} {r : Record}
    (h : r ∈ distinctFrom seen rs) : r.key ∉ seen := by
  induction rs generalizing seen with
  | nil => exact absurd h List.not_mem_nil
  | cons s rs ih =>
    by_cases hs : s.key ∈ seen
    · rw [distinctFrom_of_mem hs] at h
      exact ih h
    · rw [distinctFrom_of_not_mem hs] at h
      rcases List.mem_cons.1 h with rfl | h
      · exact hs
      · exact fun hm => ih h (List.mem_cons_of_mem s.key hm)

theorem nodup_distinctFrom (seen : List (Text × Text)) (rs : List Record) :
    ((distinctFrom seen rs).map key).Nodup := by
  induction rs generalizing seen with
  | nil => exact List.nodup_nil
  | cons r rs ih =>
    by_cases hr : r.key ∈ seen
    · rw [distinctFrom_of_mem hr]
      exact ih seen
    · rw [distinctFrom_of_not_mem hr, List.map_cons, List.nodup_cons]
      refine ⟨fun hm => ?_, ih (r.key :: seen)⟩
      obtain ⟨s, hs, hkey⟩ := List.mem_map.1 hm
      exact key_not_mem_of_mem_distinctFrom hs (hkey ▸ List.mem_cons_self)

/-- The first record of a key is the one that is kept, unless the key was seen before. -/
theorem find?_distinctFrom {seen : List (Text × Text)} {k : Text × Text} (hk : k ∉ seen)
    (rs : List Record) :
    (distinctFrom seen rs).find? (·.key == k) = rs.find? (·.key == k) := by
  induction rs generalizing seen with
  | nil => rfl
  | cons r rs ih =>
    by_cases hrk : r.key = k
    · rw [distinctFrom_of_not_mem (hrk ▸ hk), List.find?_cons_of_pos (by simp [hrk]),
        List.find?_cons_of_pos (by simp [hrk])]
    · rw [List.find?_cons_of_neg (by simp [hrk])]
      by_cases hr : r.key ∈ seen
      · rw [distinctFrom_of_mem hr, ih hk]
      · have hk' : k ∉ r.key :: seen := by simp [Ne.symm hrk, hk]
        rw [distinctFrom_of_not_mem hr, List.find?_cons_of_neg (by simp [hrk]), ih hk']

/-- Keeping the first records of a part beforehand changes nothing. -/
theorem distinctFrom_append (seen : List (Text × Text)) (rs ss : List Record) :
    distinctFrom seen (distinctFrom seen rs ++ ss) = distinctFrom seen (rs ++ ss) := by
  induction rs generalizing seen with
  | nil => rfl
  | cons r rs ih =>
    by_cases hr : r.key ∈ seen
    · rw [distinctFrom_of_mem hr, List.cons_append, distinctFrom_of_mem hr, ih seen]
    · rw [distinctFrom_of_not_mem hr, List.cons_append, List.cons_append,
        distinctFrom_of_not_mem hr, distinctFrom_of_not_mem hr, ih (r.key :: seen)]

/-- Of what is appended, what is kept depends on which keys were seen by then. -/
theorem exists_distinctFrom_append (seen : List (Text × Text)) (rs : List Record) :
    ∃ seen', ∀ ss, distinctFrom seen (rs ++ ss) = distinctFrom seen rs ++ distinctFrom seen' ss := by
  induction rs generalizing seen with
  | nil => exact ⟨seen, fun _ => rfl⟩
  | cons r rs ih =>
    by_cases hr : r.key ∈ seen
    · obtain ⟨seen', h⟩ := ih seen
      refine ⟨seen', fun ss => ?_⟩
      rw [List.cons_append, distinctFrom_of_mem hr, distinctFrom_of_mem hr, h]
    · obtain ⟨seen', h⟩ := ih (r.key :: seen)
      refine ⟨seen', fun ss => ?_⟩
      rw [List.cons_append, distinctFrom_of_not_mem hr, distinctFrom_of_not_mem hr, h,
        List.cons_append]

/-- Leaving out beforehand what would be left out later changes nothing. -/
theorem distinctFrom_distinctFrom {seen seen' : List (Text × Text)} (h : seen' ⊆ seen)
    (rs : List Record) : distinctFrom seen (distinctFrom seen' rs) = distinctFrom seen rs := by
  induction rs generalizing seen seen' with
  | nil => rfl
  | cons r rs ih =>
    by_cases hr : r.key ∈ seen'
    · rw [distinctFrom_of_mem hr, distinctFrom_of_mem (h hr), ih h]
    · rw [distinctFrom_of_not_mem hr]
      by_cases hs : r.key ∈ seen
      · rw [distinctFrom_of_mem hs, distinctFrom_of_mem hs, ih (List.cons_subset.2 ⟨hs, h⟩)]
      · rw [distinctFrom_of_not_mem hs, distinctFrom_of_not_mem hs,
          ih (List.cons_subset_cons r.key h)]

theorem sublist_distinctFrom (seen : List (Text × Text)) (rs : List Record) :
    (distinctFrom seen rs).Sublist rs := by
  induction rs generalizing seen with
  | nil => exact .slnil
  | cons r rs ih =>
    by_cases hr : r.key ∈ seen
    · rw [distinctFrom_of_mem hr]
      exact (ih seen).cons r
    · rw [distinctFrom_of_not_mem hr]
      exact (ih (r.key :: seen)).cons_cons r

/-- Kept are the keys that were not seen before, in the order in which they first appear. -/
theorem map_key_distinctFrom (seen : List (Text × Text)) (rs : List Record) :
    (distinctFrom seen rs).map key = ((rs.map key).filter (!seen.contains ·)).eraseDups := by
  induction rs generalizing seen with
  | nil => rfl
  | cons r rs ih =>
    by_cases hr : r.key ∈ seen
    · rw [distinctFrom_of_mem hr, List.map_cons, List.filter_cons_of_neg (by simp [hr]), ih]
    · rw [distinctFrom_of_not_mem hr, List.map_cons, List.map_cons,
        List.filter_cons_of_pos (by simp [hr]), List.eraseDups_cons, List.filter_filter, ih]
      refine congrArg (fun ks => r.key :: List.eraseDups ks) (List.filter_congr fun k _ => ?_)
      rw [List.contains_cons, Bool.not_or]

theorem nodup_distinct (rs : List Record) : ((distinct rs).map key).Nodup := nodup_distinctFrom [] rs

theorem find?_distinct (k : Text × Text) (rs : List Record) :
    (distinct rs).find? (·.key == k) = rs.find? (·.key == k) :=
  find?_distinctFrom List.not_mem_nil rs

theorem sublist_distinct (rs : List Record) : (distinct rs).Sublist rs := sublist_distinctFrom [] rs

theorem map_key_distinct (rs : List Record) : (distinct rs).map key = (rs.map key).eraseDups := by
  have hall : (rs.map key).filter (!([] : List (Text × Text)).contains ·) = rs.map key :=
    List.filter_eq_self.2 fun _ _ => rfl
  rw [distinct, map_key_distinctFrom, hall]

/-- What is kept of a list is kept in front of what is appended. -/
theorem distinct_prefix_append (rs ss : List Record) : distinct rs <+: distinct (rs ++ ss) := by
  obtain ⟨seen, h⟩ := exists_distinctFrom_append [] rs
  exact ⟨distinctFrom seen ss, (h ss).symm⟩

/-! ## Merging -/

theorem nodup_merge (rs ss : List Record) : ((merge rs ss).map key).Nodup := nodup_distinct (rs ++ ss)

/-- A record of the first list goes before one of the second list. -/
theorem find?_merge (k : Text × Text) (rs ss : List Record) :
    (merge rs ss).find? (·.key == k) = (rs.find? (·.key == k)).or (ss.find? (·.key == k)) := by
  rw [merge, find?_distinct, List.find?_append]

/-- What is merged bit by bit is merged at once. -/
theorem merge_distinct (rs ss : List Record) : merge (distinct rs) ss = distinct (rs ++ ss) :=
  distinctFrom_append [] rs ss

theorem merge_distinct_right (rs ss : List Record) : merge rs (distinct ss) = merge rs ss := by
  obtain ⟨seen, h⟩ := exists_distinctFrom_append [] rs
  have hsame : distinctFrom seen (distinct ss) = distinctFrom seen ss :=
    distinctFrom_distinctFrom (List.nil_subset seen) ss
  exact (h (distinct ss)).trans (hsame ▸ (h ss).symm)

/-- Merging twice is merging with both lists. -/
theorem merge_merge (ps qs ss : List Record) : merge (merge ps qs) ss = merge ps (qs ++ ss) := by
  have h : merge (merge ps qs) ss = distinct (ps ++ qs ++ ss) := merge_distinct (ps ++ qs) ss
  rw [h, List.append_assoc, ← merge]

theorem merge_assoc (ps qs ss : List Record) :
    merge (merge ps qs) ss = merge ps (merge qs ss) :=
  (merge_merge ps qs ss).trans (merge_distinct_right ps (qs ++ ss)).symm

@[simp]
theorem distinct_distinct (rs : List Record) : distinct (distinct rs) = distinct rs := by
  have h := merge_distinct rs []
  rwa [merge, List.append_nil, List.append_nil] at h

/-- A key is one of a list of records if a record is found under it. -/
theorem mem_keys_iff {rs : List Record} {k : Text × Text} :
    k ∈ rs.map key ↔ (rs.find? (·.key == k)).isSome = true := by
  rw [List.find?_isSome, List.mem_map]
  simp only [beq_iff_eq]

theorem mem_keys_distinct {rs : List Record} {k : Text × Text} :
    k ∈ (distinct rs).map key ↔ k ∈ rs.map key := by
  rw [mem_keys_iff, mem_keys_iff, find?_distinct]

/-- A record is kept if no other one has its key. -/
theorem mem_distinct {rs : List Record} {r : Record} (hr : r ∈ rs)
    (hkey : ∀ q ∈ rs, q.key = r.key → q = r) : r ∈ distinct rs := by
  obtain ⟨q, hq⟩ := Option.isSome_iff_exists.1 (mem_keys_iff.1 (List.mem_map_of_mem hr))
  have hqr : q = r := hkey q (List.mem_of_find?_eq_some hq) (by simpa using List.find?_some hq)
  subst hqr
  exact List.mem_of_find?_eq_some ((find?_distinct _ rs).trans hq)

theorem mem_keys_merge {rs ss : List Record} {k : Text × Text} :
    k ∈ (merge rs ss).map key ↔ k ∈ rs.map key ∨ k ∈ ss.map key := by
  rw [merge, mem_keys_distinct, List.map_append, List.mem_append]

end LiveText.Record
