import LiveText.Proofs.Identifier.Shape

/-!
# The grammar of identifiers

Which identifier a text begins with is told by its characters alone, without looking at how it is
read. There are three forms. Of the forms that a text has the first one counts: the legacy form, then
the display form, then the system form.

The parts of the legacy and the display form are longest words of their classes, so there is no
choice. The id of a system identifier is not: it is the longest one that *may* end where it ends,
which is in front of a field, or where no word goes on. An id in front of an underscore that no field
follows may not end there, but in front of a hyphen (`id_ends`).

## What is here

* `LegacyForm`, `DisplayForm`, `SystemForm`, and `Form` for the first of them that a text has.
* One lemma for each form says that it is what is read; **`read_eq_some_iff`** is all of them.
* `forall_not_systemForm_iff` says when a text that begins with the mark of a system identifier and an
  id has no system form all the same.
-/

set_option autoImplicit false

namespace LiveText

open Text

namespace Identifier

/-! ## The three forms -/

/-- The legacy form: letters, an id and a field, closed by a mark. -/
def LegacyForm (t : Text) (i : Identifier) (r : Text) : Prop :=
  ∃ kind id field, i = legacy kind id field ∧
    IsRun Char.isAlpha kind ∧ IsRun isIdChar id ∧ IsRun isWord field ∧
      t = '@' :: systemMark ++ kind ++ '_' :: id ++ '_' :: field ++ ['-', '='] ++ r

/-- A short id behind its mark: letters and digits, four to six in all, that no underscore follows. -/
def ShortIdForm (t shortId r : Text) : Prop :=
  ∃ u, t = '#' :: u ∧ LongestRun Char.isAlphanum u shortId r ∧
    4 ≤ shortId.length ∧ shortId.length ≤ 6 ∧ r.head? ≠ some '_'

/-- The display form: a source and a field, with the short id if one follows. -/
def DisplayForm (t : Text) (i : Identifier) (r : Text) : Prop :=
  ∃ source field shortId u v, i = display source field shortId ∧
    IsRun isNameChar source ∧ t = '@' :: source ++ '.' :: u ∧ LongestRun isWord u field v ∧
      ((∃ h, shortId = some h ∧ ShortIdForm v h r) ∨
        (shortId = none ∧ r = v ∧ ∀ h s, ¬ShortIdForm v h s))

/-- What may come behind the id of a system identifier: a field behind its mark, or no word. -/
inductive BehindId : Text → Option Text → Text → Prop
  | field {t f r : Text} (h : LongestRun isWord t f r) : BehindId ('_' :: t) (some f) r
  | bare {t : Text} (h : ∀ c ∈ t.head?, isWord c = false) : BehindId t none t

/-- The system form: the longest id that may end where it ends. -/
def SystemForm (t : Text) (i : Identifier) (r : Text) : Prop :=
  ∃ id field u, i = system id field ∧ IsRun isIdChar id ∧
    t = '@' :: systemMark ++ id ++ u ∧ BehindId u field r ∧
      ∀ id' u' field' r', IsRun isIdChar id' → t = '@' :: systemMark ++ id' ++ u' →
        BehindId u' field' r' → id'.length ≤ id.length

/-- An identifier is what a text begins with: of the forms that the text has the first one counts. -/
def Form (t : Text) (i : Identifier) (r : Text) : Prop :=
  LegacyForm t i r ∨ (∀ j s, ¬LegacyForm t j s) ∧
    (DisplayForm t i r ∨ (∀ j s, ¬DisplayForm t j s) ∧ SystemForm t i r)

/-! ## Reading is recognizing a form -/

theorem readLegacy_eq_some_iff {t r : Text} {i : Identifier} :
    readLegacy t = some (i, r) ↔ LegacyForm ('@' :: t) i r := by
  simp only [readLegacy, Option.bind_eq_bind, Option.bind_eq_some_iff, Option.pure_def,
    Option.some.injEq, Prod.mk.injEq, Prod.exists, literal?_eq_some_iff,
    run?_eq_some_iff_longestRun]
  constructor
  · rintro ⟨_, rfl, kind, _, ⟨hkind, rfl, -⟩, _, rfl, id, _, ⟨hid, rfl, -⟩, _, rfl, field, _,
      ⟨hfield, rfl, -⟩, _, rfl, rfl, rfl⟩
    exact ⟨kind, id, field, rfl, hkind, hid, hfield, by simp⟩
  · rintro ⟨kind, id, field, rfl, hkind, hid, hfield, ht⟩
    refine ⟨_, by simpa using ht, kind, _, ⟨hkind, rfl, by simp⟩, _, rfl, id, _,
      ⟨hid, rfl, by simp; decide⟩, _, rfl, field, _, ⟨hfield, rfl, by simp; decide⟩, _, rfl, rfl, rfl⟩

theorem readShortId_eq_some_iff {t h r : Text} :
    readShortId t = some (h, r) ↔ ShortIdForm t h r := by
  simp only [readShortId, Option.bind_eq_bind, Option.bind_eq_some_iff, Prod.exists,
    literal?_eq_some_iff, run?_eq_some_iff_longestRun, ShortIdForm]
  refine exists_congr fun u => and_congr Iff.rfl ?_
  constructor
  · rintro ⟨h', r', hrun, hif⟩
    split at hif
    · cases hif
      exact ⟨hrun, ‹_›⟩
    · cases hif
  · rintro ⟨hrun, hlen⟩
    exact ⟨h, r, hrun, if_pos hlen⟩

theorem readDisplay_eq_some_iff {t r : Text} {i : Identifier} :
    readDisplay t = some (i, r) ↔ DisplayForm ('@' :: t) i r := by
  simp only [readDisplay, Option.bind_eq_bind, Option.bind_eq_some_iff, Option.pure_def,
    Prod.exists, literal?_eq_some_iff, run?_eq_some_iff_longestRun]
  constructor
  · rintro ⟨source, _, ⟨hsource, rfl, -⟩, u, rfl, field, v, hfield, h⟩
    cases hshort : readShortId v with
    | some q =>
      rw [hshort] at h
      cases h
      exact ⟨source, field, some q.1, u, v, rfl, hsource, rfl, hfield,
        .inl ⟨q.1, rfl, readShortId_eq_some_iff.1 hshort⟩⟩
    | none =>
      rw [hshort] at h
      cases h
      refine ⟨source, field, none, u, r, rfl, hsource, rfl, hfield, .inr ⟨rfl, rfl, fun w s hw => ?_⟩⟩
      rw [readShortId_eq_some_iff.2 hw] at hshort
      cases hshort
  · rintro ⟨source, field, shortId, u, v, rfl, hsource, ht, hfield, h⟩
    refine ⟨source, '.' :: u, ⟨hsource, by simpa using ht, by simp; decide⟩, u, rfl, field, v, hfield, ?_⟩
    rcases h with ⟨w, rfl, hw⟩ | ⟨rfl, rfl, hnone⟩
    · rw [readShortId_eq_some_iff.2 hw]
    · have hshort : readShortId r = none := by
        rw [Option.eq_none_iff_forall_ne_some]
        exact fun q hq => hnone q.1 q.2 (readShortId_eq_some_iff.1 hq)
      rw [hshort]

/-! ### Where an id may end -/

/-- An id is cut back before its last hyphen. -/
theorem cutBack_append_hyphen {front back : Text} (hfront : front ≠ []) (hback : '-' ∉ back) :
    cutBack (front ++ '-' :: back) = some (front, '-' :: back) := by
  have hne : ∀ c ∈ back.reverse, (c != '-') = true := by
    intro c hc
    rw [bne_iff_ne]
    rintro rfl
    exact hback (List.mem_reverse.1 hc)
  have hreverse : (front ++ '-' :: back).reverse = back.reverse ++ '-' :: front.reverse := by simp
  have htake : (back.reverse ++ '-' :: front.reverse).takeWhile (· != '-') = back.reverse := by
    rw [List.takeWhile_append_of_pos hne]
    simp
  have hdrop : (back.reverse ++ '-' :: front.reverse).dropWhile (· != '-') = '-' :: front.reverse := by
    rw [List.dropWhile_append_of_pos hne]
    simp
  have hfront' : front.reverse ≠ [] := by simpa using hfront
  rw [cutBack, hreverse, htake, hdrop]
  obtain ⟨c, rest, hrest⟩ := List.exists_cons_of_ne_nil hfront'
  rw [hrest]
  simp [← hrest]

/-- The last hyphen of an id. -/
theorem exists_last_hyphen {id : Text} (h : '-' ∈ id) :
    ∃ front back, id = front ++ '-' :: back ∧ '-' ∉ back := by
  obtain ⟨as, bs, heq, hnot⟩ := List.eq_append_cons_of_mem (List.mem_reverse.2 h)
  refine ⟨bs.reverse, as.reverse, ?_, by simpa using hnot⟩
  rw [← List.reverse_reverse id, heq]
  simp

/-- In front of a hyphen there is no more than in front of the last one. -/
theorem length_le_of_last_hyphen {a m front back : Text}
    (h : a ++ '-' :: m = front ++ '-' :: back) (hback : '-' ∉ back) : a.length ≤ front.length := by
  rcases List.append_eq_append_iff.1 h with ⟨u, rfl, -⟩ | ⟨u, rfl, hu⟩
  · rw [List.length_append]
    exact Nat.le_add_right _ _
  · cases u with
    | nil => simp
    | cons c u =>
      obtain ⟨-, hb⟩ := List.cons.inj hu
      exact absurd (hb ▸ List.mem_append_right u List.mem_cons_self) hback

theorem hyphen_of_cutBack {id front back : Text} (h : cutBack id = some (front, back)) :
    ∃ b, back = '-' :: b ∧ '-' ∉ b := by
  rw [cutBack] at h
  split at h
  · cases h
    refine ⟨_, rfl, fun hm => ?_⟩
    have hall := List.all_takeWhile (p := (· != '-')) (l := id.reverse)
    exact absurd (List.all_eq_true.1 hall '-' (List.mem_reverse.1 hm)) (by decide)
  · cases h

/-- Behind the longest id a word goes on with an underscore. -/
theorem eq_low_of_isWord {c : Char} (hid : isIdChar c = false) (hword : isWord c = true) :
    c = '_' := by
  rw [isIdChar, Bool.or_eq_false_iff] at hid
  rwa [isWord, hid.1, Bool.false_or, beq_iff_eq] at hword

/-- An id ends where the longest one ends, or before a hyphen. -/
theorem id_ends {id u id' u' r : Text} {field : Option Text} (h : LongestRun isIdChar (id' ++ u') id u)
    (hid' : IsRun isIdChar id') (hu' : BehindId u' field r) :
    (id' = id ∧ u' = u) ∨ ∃ m, id = id' ++ '-' :: m ∧ u' = '-' :: m ++ u := by
  obtain ⟨w, rfl, rfl⟩ := h.eq_append_of_isRun hid'
  cases w with
  | nil => exact .inl ⟨(List.append_nil _).symm, rfl⟩
  | cons c w =>
    have hc : isIdChar c = true := h.isRun.2 c (by simp)
    refine .inr ⟨w, ?_⟩
    cases hu' with
    | field _ => exact absurd hc (by decide)
    | bare hbare =>
      have hword : isWord c = false := hbare c rfl
      rw [isWord, Bool.or_eq_false_iff] at hword
      rw [isIdChar, hword.1, Bool.false_or, beq_iff_eq] at hc
      rw [hc]
      exact ⟨rfl, rfl⟩

theorem BehindId.unique {t r r' : Text} {f f' : Option Text} (h : BehindId t f r)
    (h' : BehindId t f' r') : f = f' ∧ r = r' := by
  cases h with
  | field h =>
    cases h' with
    | field h' =>
      rw [← run?_eq_some_iff_longestRun] at h h'
      rw [h] at h'
      cases h'
      exact ⟨rfl, rfl⟩
    | bare hbare => exact absurd (hbare '_' rfl) (by decide)
  | bare h =>
    cases h' with
    | field _ => exact absurd (h '_' rfl) (by decide)
    | bare _ => exact ⟨rfl, rfl⟩

/-- Behind a lone underscore an id may not end. -/
theorem not_behindId_of_run? {v r : Text} {f : Option Text} (h : run? isWord v = none) :
    ¬BehindId ('_' :: v) f r := by
  intro hv
  cases hv with
  | field hfield =>
    rw [run?_eq_some_iff_longestRun.2 hfield] at h
    cases h
  | bare hbare => exact absurd (hbare '_' rfl) (by decide)

theorem SystemForm.unique {t r s : Text} {i j : Identifier} (hi : SystemForm t i r)
    (hj : SystemForm t j s) : i = j ∧ r = s := by
  obtain ⟨id, f, u, rfl, hid, rfl, hu, hmax⟩ := hi
  obtain ⟨id', f', u', rfl, hid', ht, hu', hmax'⟩ := hj
  have hlen : id.length = id'.length :=
    Nat.le_antisymm (hmax' id u f r hid rfl hu) (hmax id' u' f' s hid' ht hu')
  simp only [List.append_assoc, List.append_cancel_left_eq] at ht
  obtain ⟨rfl, rfl⟩ := List.append_inj ht hlen
  obtain ⟨rfl, rfl⟩ := hu.unique hu'
  exact ⟨rfl, rfl⟩

/-- The longest id has the system form, if it may end where it ends. -/
theorem SystemForm.of_longestRun {t id u r : Text} {field : Option Text}
    (h : LongestRun isIdChar t id u) (hu : BehindId u field r) :
    SystemForm ('@' :: systemMark ++ t) (system id field) r := by
  refine ⟨id, field, u, rfl, h.isRun, by simp [h.eq_append], hu, ?_⟩
  intro id' u' field' r' hid' ht hu'
  have ht : t = id' ++ u' := by simpa using ht
  rcases id_ends (ht ▸ h) hid' hu' with ⟨rfl, -⟩ | ⟨m, rfl, -⟩
  · exact Nat.le_refl _
  · simp

/-- In front of a lone underscore the id is cut back before its last hyphen. -/
theorem SystemForm.of_cutBack {t id v front back : Text} (h : LongestRun isIdChar t id ('_' :: v))
    (hv : run? isWord v = none) (hcut : cutBack id = some (front, back)) :
    SystemForm ('@' :: systemMark ++ t) (system front none) (back ++ '_' :: v) := by
  have hsplit := cutBack_append hcut
  obtain ⟨b, rfl, hb⟩ := hyphen_of_cutBack hcut
  refine ⟨front, none, '-' :: b ++ '_' :: v, rfl, isRun_of_cutBack h.isRun hcut,
    by simp [h.eq_append, hsplit], .bare (by simp; decide), ?_⟩
  intro id' u' field' r' hid' ht hu'
  have ht : t = id' ++ u' := by simpa using ht
  rcases id_ends (ht ▸ h) hid' hu' with ⟨rfl, rfl⟩ | ⟨m, hm, -⟩
  · exact absurd hu' (not_behindId_of_run? hv)
  · exact length_le_of_last_hyphen (hm.symm.trans hsplit) hb

theorem systemForm_of_readSystem {t r : Text} {i : Identifier} (h : readSystem t = some (i, r)) :
    SystemForm ('@' :: t) i r := by
  simp only [readSystem, Option.bind_eq_bind, Option.bind_eq_some_iff, Option.pure_def,
    Prod.exists, literal?_eq_some_iff, run?_eq_some_iff_longestRun] at h
  obtain ⟨t, rfl, id, u, hid, h⟩ := h
  split at h
  · next v =>
    split at h
    · next field r' hfield =>
      cases h
      exact .of_longestRun hid (.field (run?_eq_some_iff_longestRun.1 hfield))
    · next hnone =>
      simp only [Option.bind_eq_some_iff, Option.some.injEq, Prod.mk.injEq, Prod.exists] at h
      obtain ⟨front, back, hcut, rfl, rfl⟩ := h
      exact .of_cutBack hid hnone hcut
  · next hlow =>
    cases h
    refine .of_longestRun hid (.bare fun c hc => ?_)
    rw [Bool.eq_false_iff]
    intro hword
    obtain rfl := eq_low_of_isWord (hid.ends c hc) hword
    obtain ⟨v, hv⟩ := List.head?_eq_some_iff.1 hc
    exact hlow v hv

theorem SystemForm.exists_readSystem {t r : Text} {i : Identifier} (h : SystemForm ('@' :: t) i r) :
    ∃ q, readSystem t = some q := by
  obtain ⟨id, f, u, -, hid, ht, hu, -⟩ := h
  obtain ⟨w, v, hrun⟩ := hid.exists_longestRun u
  have hread : run? isIdChar (id ++ u) = some (w, v) := run?_eq_some_iff_longestRun.2 hrun
  have hmark : literal? systemMark t = some (id ++ u) :=
    literal?_eq_some_iff.2 (by simpa using ht)
  simp only [readSystem, Option.bind_eq_bind, hmark, hread, Option.bind_some, Option.pure_def]
  split
  · next x =>
    split
    · exact ⟨_, rfl⟩
    · next hnone =>
      rcases id_ends hrun hid hu with ⟨rfl, rfl⟩ | ⟨m, rfl, -⟩
      · exact absurd hu (not_behindId_of_run? hnone)
      · obtain ⟨front, back, heq, hback⟩ :=
          exists_last_hyphen (List.mem_append_right id List.mem_cons_self : '-' ∈ id ++ '-' :: m)
        have hfront : front ≠ [] := by
          have hle := length_le_of_last_hyphen heq hback
          rintro rfl
          exact hid.1 (List.length_eq_zero_iff.1 (Nat.le_zero.1 hle))
        rw [heq, cutBack_append_hyphen hfront hback]
        exact ⟨_, rfl⟩
  · exact ⟨_, rfl⟩

theorem readSystem_eq_some_iff {t r : Text} {i : Identifier} :
    readSystem t = some (i, r) ↔ SystemForm ('@' :: t) i r := by
  refine ⟨systemForm_of_readSystem, fun h => ?_⟩
  obtain ⟨⟨j, s⟩, hread⟩ := h.exists_readSystem
  obtain ⟨rfl, rfl⟩ := h.unique (systemForm_of_readSystem hread)
  exact hread

/-- Every form begins with an at sign. -/
theorem Form.exists_at {t r : Text} {i : Identifier} (h : Form t i r) : ∃ u, t = '@' :: u := by
  rcases h with ⟨_, _, _, -, -, -, -, rfl⟩ | ⟨-, ⟨_, _, _, _, _, -, -, rfl, -⟩ |
    ⟨-, _, _, _, -, -, rfl, -⟩⟩
  · exact ⟨_, rfl⟩
  · exact ⟨_, rfl⟩
  · exact ⟨_, rfl⟩

/-- **An identifier is read if and only if the text begins with a form of it.** -/
theorem read_eq_some_iff {t r : Text} {i : Identifier} : read t = some (i, r) ↔ Form t i r := by
  by_cases hat : ∃ u, t = '@' :: u
  · obtain ⟨u, rfl⟩ := hat
    have hlegacy : readLegacy u = none ↔ ∀ j s, ¬LegacyForm ('@' :: u) j s := by
      simp only [Option.eq_none_iff_forall_ne_some, Prod.forall, ← readLegacy_eq_some_iff, ne_eq]
    have hdisplay : readDisplay u = none ↔ ∀ j s, ¬DisplayForm ('@' :: u) j s := by
      simp only [Option.eq_none_iff_forall_ne_some, Prod.forall, ← readDisplay_eq_some_iff, ne_eq]
    rw [read_at, Option.or_eq_some_iff, Option.or_eq_some_iff, readLegacy_eq_some_iff,
      readDisplay_eq_some_iff, readSystem_eq_some_iff, hlegacy, hdisplay, Form]
  · have hnone : read t = none := by
      rw [read]
      exact fun u hu => hat ⟨u, hu⟩
    rw [hnone]
    exact iff_of_false (by simp) fun h => hat h.exists_at

/-! ## Where there is no form -/

theorem forall_not_form_iff {t : Text} :
    (∀ i r, ¬Form t i r) ↔
      (∀ i r, ¬LegacyForm t i r) ∧ (∀ i r, ¬DisplayForm t i r) ∧ ∀ i r, ¬SystemForm t i r := by
  constructor
  · intro h
    have hlegacy : ∀ i r, ¬LegacyForm t i r := fun i r hi => h i r (.inl hi)
    have hdisplay : ∀ i r, ¬DisplayForm t i r := fun i r hi => h i r (.inr ⟨hlegacy, .inl hi⟩)
    exact ⟨hlegacy, hdisplay, fun i r hi => h i r (.inr ⟨hlegacy, .inr ⟨hdisplay, hi⟩⟩)⟩
  · rintro ⟨hlegacy, hdisplay, hsystem⟩ i r (h | ⟨-, h | ⟨-, h⟩⟩)
    · exact hlegacy i r h
    · exact hdisplay i r h
    · exact hsystem i r h

/-- No system identifier is read if and only if a lone underscore follows the id, and the id cannot be
cut back. -/
theorem forall_not_systemForm_iff {t id u : Text} (h : LongestRun isIdChar t id u) :
    (∀ i r, ¬SystemForm ('@' :: systemMark ++ t) i r) ↔
      '-' ∉ id.tail ∧ ∃ r, u = '_' :: r ∧ ∀ c ∈ r.head?, isWord c = false := by
  constructor
  · intro hnone
    have hbare : ¬∀ c ∈ u.head?, isWord c = false := fun hbare =>
      hnone _ _ (.of_longestRun h (.bare hbare))
    cases u with
    | nil => exact absurd (by simp) hbare
    | cons c r =>
      have hword : isWord c = true := by simpa using hbare
      obtain rfl := eq_low_of_isWord (h.ends c rfl) hword
      have hrun : run? isWord r = none := by
        rw [Option.eq_none_iff_forall_ne_some]
        exact fun q hq =>
          hnone _ _ (.of_longestRun h (.field (run?_eq_some_iff_longestRun.1 hq)))
      refine ⟨fun hhyphen => ?_, r, rfl, run?_eq_none_iff.1 hrun⟩
      obtain ⟨front, back, hsplit, hback⟩ := exists_last_hyphen hhyphen
      obtain ⟨d, tail, rfl⟩ := List.exists_cons_of_ne_nil h.isRun.1
      rw [List.tail_cons] at hsplit
      subst hsplit
      have hcut : cutBack (d :: front ++ '-' :: back) = some (d :: front, '-' :: back) :=
        cutBack_append_hyphen (List.cons_ne_nil d front) hback
      exact hnone _ _ (.of_cutBack h hrun hcut)
  · rintro ⟨hhyphen, r, rfl, hr⟩ i s ⟨id', field, u', rfl, hid', ht, hu', -⟩
    have ht : t = id' ++ u' := by simpa using ht
    rcases id_ends (ht ▸ h) hid' hu' with ⟨-, rfl⟩ | ⟨m, rfl, -⟩
    · exact not_behindId_of_run? (run?_eq_none_iff.2 hr) hu'
    · obtain ⟨d, v, rfl⟩ := List.exists_cons_of_ne_nil hid'.1
      exact hhyphen (by simp)

end Identifier
end LiveText
