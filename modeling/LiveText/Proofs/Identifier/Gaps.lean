import LiveText.Proofs.Identifier.Occurrences
import LiveText.Proofs.Identifier.Pieces
import LiveText.Proofs.Identifier.RunningOn

/-!
# Where the gaps of a separated text are

Separating cuts a text into pieces and writes them with one space between each and the next. Behind
such a space stands an at sign, so there is one way only to tell the spaces that were put in from those
that stood there before (`Spaced.unique`).

In front of every gap stands an identifier that is found in the separated text. Behind it stands
something that looks like an identifier from its first characters (`Cut.of_append`), and this is not
always one: the id of a system identifier may end in front of a lone underscore, and then the text is
left `Dangling` (`forall_not_form_iff_dangling`). The other way round a gap may be missing. A legacy
identifier is not separated from what stands right behind it, so the two touch (`touching_iff`).

## What is here

* `Spaced` says that a text is another one with spaces in it, `existsUnique_spaced` that a separated
  text is.
* `Cut`: the pieces that separating cuts a text into, with what stands at both sides of a cut.
* **`beside_gaps_separate`** says which identifiers are found beside the gaps.
-/

set_option autoImplicit false

namespace LiveText

open Text Identifier

/-! ## Texts with spaces in them -/

/-- The text `s` is made of the pieces of the text `t`, with one space between each and the next, and
behind each of these spaces stands an at sign. -/
structure Spaced (t s : Text) (ps : List Text) : Prop where
  ne_nil : ps ≠ []
  flatten : ps.flatten = t
  spaced : joinWords ps = s
  at_tail : ∀ p ∈ ps.tail, ∃ u, p = '@' :: u

namespace Spaced
variable {t s : Text}

/-- The first piece ends where the space stands that is not in the text. -/
theorem not_append_cons {p u : Text} {c : Char} {ps qs : List Text} (h : Spaced t s (p :: ps)) :
    ¬Spaced t s ((p ++ c :: u) :: qs) := by
  intro h'
  have hflatten := h.flatten.trans h'.flatten.symm
  have hspaced := h.spaced.trans h'.spaced.symm
  rw [List.flatten_cons, List.flatten_cons, List.append_assoc,
    List.append_cancel_left_eq] at hflatten
  cases ps with
  | nil => cases hflatten
  | cons q ps =>
    -- behind the piece stands an at sign in the text, and a space in the other one
    obtain ⟨v, rfl⟩ := h.at_tail q List.mem_cons_self
    rw [joinWords_cons (List.cons_ne_nil _ ps), joinWords_append_cons, List.append_cancel_left_eq,
      joinWords_cons_cons c] at hspaced
    obtain ⟨rfl, -⟩ := List.cons.inj hflatten
    cases hspaced

theorem first_eq {p q : Text} {ps qs : List Text} (h : Spaced t s (p :: ps))
    (h' : Spaced t s (q :: qs)) : p = q := by
  have hflatten := h.flatten.trans h'.flatten.symm
  rw [List.flatten_cons, List.flatten_cons] at hflatten
  rcases List.append_eq_append_iff.1 hflatten with ⟨u, rfl, -⟩ | ⟨u, rfl, -⟩
  · cases u with
    | nil => rw [List.append_nil]
    | cons c u => exact absurd h' h.not_append_cons
  · cases u with
    | nil => rw [List.append_nil]
    | cons c u => exact absurd h h'.not_append_cons

/-- Behind the last piece nothing of the text is left. -/
theorem eq_nil {p : Text} {qs : List Text} (h : Spaced t s [p]) (h' : Spaced t s (p :: qs)) :
    qs = [] := by
  cases qs with
  | nil => rfl
  | cons q qs =>
    obtain ⟨u, rfl⟩ := h'.at_tail q List.mem_cons_self
    have hflatten := h.flatten.trans h'.flatten.symm
    rw [List.flatten_cons, List.flatten_cons] at hflatten
    cases List.append_cancel_left hflatten

/-- What is behind the first piece is told by the text and by one way to put spaces into it. -/
theorem tail {p q r : Text} {ps qs : List Text} (h : Spaced t s (p :: q :: ps))
    (h' : Spaced t s (p :: r :: qs)) :
    Spaced (q :: ps).flatten (joinWords (q :: ps)) (r :: qs) := by
  have hflatten := h'.flatten.trans h.flatten.symm
  have hspaced := h'.spaced.trans h.spaced.symm
  rw [List.flatten_cons, List.flatten_cons] at hflatten
  rw [joinWords_cons (List.cons_ne_nil q ps), joinWords_cons (List.cons_ne_nil r qs),
    List.append_cancel_left_eq, List.cons.injEq] at hspaced
  exact ⟨List.cons_ne_nil r qs, List.append_cancel_left hflatten, hspaced.2,
    fun p hp => h'.at_tail p (List.mem_cons_of_mem r hp)⟩

/-- **The spaces that are put in can be told from those that stood there.** -/
theorem unique {ps qs : List Text} (h : Spaced t s ps) (h' : Spaced t s qs) : ps = qs := by
  induction ps generalizing t s qs with
  | nil => exact absurd rfl h.ne_nil
  | cons p ps ih =>
    cases qs with
    | nil => exact absurd rfl h'.ne_nil
    | cons q qs =>
      obtain rfl := h.first_eq h'
      cases ps with
      | nil => rw [h.eq_nil h']
      | cons r ps =>
        cases qs with
        | nil => rw [h'.eq_nil h]
        | cons q qs => rw [ih (h.tail h) (h.tail h')]

end Spaced

/-! ## The pieces of a separated text -/

/-- Pieces of a text that follows the character `prev`, cut where an identifier of the display or the
system form has something right behind it that looks like an identifier. -/
inductive Cut : Option Char → List Text → Prop
  | last (prev : Option Char) (p : Text) : Cut prev [p]
  | gap {prev : Option Char} {t : Text} {i : Identifier} {p : Text} {ps : List Text}
      (ho : opensAfter (t.getLast?.or prev) = true) (hi : i.WellFormed) (hlegacy : i.isLegacy = false)
      (hbare : startsBare (joinWords (p :: ps)) = true) (rest : Cut (some ' ') (p :: ps)) :
      Cut prev ((t ++ i.text) :: p :: ps)

namespace Cut
variable {prev : Option Char}

/-- What stands in front of the first piece belongs to it. -/
theorem append_cons {t p : Text} {ps : List Text} (h : Cut (t.getLast?.or prev) (p :: ps)) :
    Cut prev ((t ++ p) :: ps) := by
  cases h with
  | last => exact .last prev (t ++ p)
  | @gap _ u i q ps ho hi hlegacy hbare rest =>
    rw [← List.append_assoc]
    refine .gap ?_ hi hlegacy hbare rest
    rwa [List.getLast?_append, Option.or_assoc]

theorem ne_nil {ps : List Text} (h : Cut prev ps) : ps ≠ [] := by
  cases h with
  | last => exact List.cons_ne_nil _ _
  | gap => exact List.cons_ne_nil _ _

theorem at_tail {ps : List Text} (h : Cut prev ps) : ∀ p ∈ ps.tail, ∃ u, p = '@' :: u := by
  induction h with
  | last => simp
  | @gap prev t i p ps _ _ _ hbare _ ih =>
    refine List.forall_mem_cons.2 ⟨?_, ih⟩
    obtain ⟨v, hv⟩ := at_of_startsBare hbare
    cases p with
    | nil =>
      cases ps with
      | nil => cases hv
      | cons q ps =>
        rw [joinWords_cons (List.cons_ne_nil q ps)] at hv
        cases hv
    | cons c p =>
      rw [joinWords_cons_cons] at hv
      obtain ⟨rfl, -⟩ := List.cons.inj hv
      exact ⟨p, rfl⟩

/-- **What stands at both sides of a gap**: an identifier in front of it, and behind it something that
looks like one. -/
theorem of_append {us vs : List Text} (h : Cut prev (us ++ vs)) (hus : us ≠ []) (hvs : vs ≠ []) :
    (∃ t, ∃ i : Identifier, joinWords us = t ++ i.text ∧ opensAfter (t.getLast?.or prev) = true ∧
      i.WellFormed ∧ i.isLegacy = false) ∧ startsBare (joinWords vs) = true := by
  induction us generalizing prev with
  | nil => exact absurd rfl hus
  | cons u us ih =>
    cases us with
    | nil =>
      cases h with
      | last => exact absurd rfl hvs
      | @gap _ t i _ _ ho hi hlegacy hbare _ =>
        exact ⟨⟨t, i, joinWords_singleton _, ho, hi, hlegacy⟩, hbare⟩
    | cons w us =>
      cases h with
      | @gap _ t i _ _ ho hi hlegacy hbare rest =>
        obtain ⟨⟨v, j, hv, hopens, hj⟩, hbare⟩ := ih rest (List.cons_ne_nil w us)
        refine ⟨⟨t ++ i.text ++ ' ' :: v, j, ?_, ?_, hj⟩, hbare⟩
        · rw [joinWords_cons (List.cons_ne_nil w us), hv, List.append_assoc _ (' ' :: v)]
          rfl
        · rwa [List.getLast?_append, Option.or_assoc, getLast?_cons_or]

end Cut

/-- The pieces of a text, together with the text and the separated text that they make up. -/
theorem exists_cut (prev : Option Char) (t : Text) :
    ∃ p ps, Cut prev (p :: ps) ∧ (p :: ps).flatten = t ∧
      joinWords (p :: ps) = separateAfter prev t := by
  fun_induction separateAfter prev t with
  | case1 prev t i r h hgap ih =>
    obtain ⟨ho, rfl, hi⟩ := readAfter_eq_some_iff.1 h
    obtain ⟨p, ps, hcut, rfl, hspaced⟩ := ih
    have hneeds := hgap
    rw [needsGap, Bool.and_eq_true, Bool.not_eq_true'] at hneeds
    refine ⟨i.text, p :: ps, .gap (t := []) ho (wellFormed_of_read hi) hneeds.1 ?_ hcut, rfl, ?_⟩
    · rw [hspaced, startsBare_separateAfter]
      exact hneeds.2
    · rw [joinWords_cons (List.cons_ne_nil p ps), hspaced]
  | case2 prev t i r h _ ih =>
    obtain ⟨ho, rfl, hi⟩ := readAfter_eq_some_iff.1 h
    obtain ⟨p, ps, hcut, rfl, hspaced⟩ := ih
    refine ⟨i.text ++ p, ps, .append_cons ?_, ?_, ?_⟩
    · rwa [← lastChar, lastChar_or]
    · rw [List.flatten_cons, List.flatten_cons, List.append_assoc]
    · rw [joinWords_append_cons, hspaced]
  | case3 prev => exact ⟨[], [], .last prev [], rfl, rfl⟩
  | case4 prev c cs _ ih =>
    obtain ⟨p, ps, hcut, rfl, hspaced⟩ := ih
    refine ⟨[c] ++ p, ps, .append_cons hcut, rfl, ?_⟩
    rw [joinWords_append_cons, hspaced]
    rfl

theorem exists_cut_separate (t : Text) : ∃ ps, Cut none ps ∧ Spaced t (separate t) ps := by
  obtain ⟨p, ps, hcut, ht, hs⟩ := exists_cut none t
  exact ⟨p :: ps, hcut, hcut.ne_nil, ht, hs, hcut.at_tail⟩

/-- **A separated text is the text with spaces in it**, in one way only. -/
theorem existsUnique_spaced (t : Text) : ∃! ps, Spaced t (separate t) ps := by
  obtain ⟨ps, -, h⟩ := exists_cut_separate t
  exact ⟨ps, h, fun qs hqs => hqs.unique h⟩

/-! ## Where a first look is wrong -/

/-- A text that looks like a system identifier from its first characters and is no identifier: a lone
underscore follows the id, and no hyphen stands in the id to cut it back to. -/
def Dangling (t : Text) : Prop :=
  ∃ id r, t = '@' :: systemMark ++ id ++ '_' :: r ∧ IsRun isIdChar id ∧ '-' ∉ id.tail ∧
    (∀ c ∈ r.head?, isWord c = false) ∧ (∀ i s, ¬LegacyForm t i s) ∧ ∀ i s, ¬DisplayForm t i s

/-- **A first look is wrong** only where a text is left dangling. -/
theorem forall_not_form_iff_dangling {t : Text} (h : startsBare t = true) :
    (∀ i r, ¬Form t i r) ↔ Dangling t := by
  rw [forall_not_form_iff]
  constructor
  · rintro ⟨hlegacy, hdisplay, hsystem⟩
    rcases startsBare_iff.1 h with ⟨source, c, r, hsource, hc, rfl⟩ | ⟨c, r, hc, rfl⟩
    · obtain ⟨i, q, hi⟩ := exists_displayForm (r := r) hsource hc
      exact absurd hi (hdisplay i q)
    · obtain ⟨id, u, hid⟩ := exists_longestRun_cons hc r
      obtain ⟨hhyphen, v, rfl, hv⟩ := (forall_not_systemForm_iff hid).1 hsystem
      refine ⟨id, v, ?_, hid.isRun, hhyphen, hv, hlegacy, hdisplay⟩
      rw [List.append_assoc, ← hid.eq_append]
  · rintro ⟨id, r, rfl, hid, hhyphen, hr, hlegacy, hdisplay⟩
    refine ⟨hlegacy, hdisplay, ?_⟩
    rw [List.append_assoc]
    exact (forall_not_systemForm_iff ⟨hid, rfl, by simp; decide⟩).2 ⟨hhyphen, r, rfl, hr⟩

/-! ## What stands beside a gap -/

/-- An identifier is found at an offset if and only if one may start there and does. -/
theorem exists_occurrence_iff {t : Text} {p : Nat} :
    (∃ o ∈ occurrences t, o.start = p) ↔
      opensAfter (t.take p).getLast? = true ∧ ∃ i r, Form (t.drop p) i r := by
  constructor
  · rintro ⟨⟨i, _⟩, ho, rfl⟩
    obtain ⟨hopens, r, hr⟩ := standsAt_iff.1 (mem_occurrences_iff.1 ho)
    exact ⟨hopens, i, r, read_eq_some_iff.1 hr⟩
  · rintro ⟨hopens, i, r, hr⟩
    exact ⟨⟨i, p⟩, mem_occurrences_iff.2 (standsAt_iff.2 ⟨hopens, r, read_eq_some_iff.2 hr⟩), rfl⟩

/-- Behind an identifier of a separated text, no space belongs. -/
theorem needsGap_eq_false_of_mem {t : Text} :
    ∀ o ∈ separatedOccurrences t, o.identifier.needsGap ((separate t).drop o.stop) = false := by
  refine (forall_occurrences_iff (P := fun i s => i.needsGap s = false)).2 fun us i vs hts => ?_
  have hgap := noGap_tokens_separate t
  rw [hts] at hgap
  exact hgap.right.1

/-- The last character in front of where an identifier stops is its own. -/
theorem getLast?_take_stop {t : Text} {o : Occurrence} (ho : o ∈ occurrences t) :
    (t.take o.stop).getLast? = o.identifier.lastChar := by
  obtain ⟨us, vs, -, hstart, ht⟩ := exists_split_of_mem_occurrences ho
  rw [Occurrence.stop, hstart, ht, ← List.append_assoc, ← List.length_append, List.take_left,
    List.getLast?_append, ← lastChar, lastChar_or]

/-- **Two identifiers of a separated text touch** if and only if the first one is a legacy identifier,
and something of one of the forms follows right behind it. -/
theorem touching_iff {t : Text} {a : Occurrence} (ha : a ∈ separatedOccurrences t) :
    (∃ b ∈ separatedOccurrences t, b.start = a.stop) ↔
      a.identifier.isLegacy = true ∧ ∃ i r, Form ((separate t).drop a.stop) i r := by
  rw [separatedOccurrences, exists_occurrence_iff, getLast?_take_stop ha]
  refine and_congr_left fun ⟨i, r, hi⟩ => ⟨fun _ => ?_, opensAfter_lastChar_of_isLegacy⟩
  have hgap := needsGap_eq_false_of_mem a ha
  rwa [needsGap, startsBare_of_read (read_eq_some_iff.2 hi), Bool.and_true,
    Bool.not_eq_false'] at hgap

/-- In front of a space every identifier is complete. -/
theorem mem_occurrences_of_space {t : Text} {i : Identifier} (ho : opensAfter t.getLast? = true)
    (hi : i.WellFormed) (v : Text) : ⟨i, t.length⟩ ∈ occurrences (t ++ i.text ++ ' ' :: v) := by
  rw [mem_occurrences_iff, standsAt_iff, List.append_assoc, List.take_left, List.drop_left]
  exact ⟨ho, _, standsBefore_of_stops hi (stops_space v)⟩

/-- Behind a space every identifier may start. -/
theorem exists_occurrence_space_iff {t v : Text} :
    (∃ o ∈ occurrences (t ++ ' ' :: v), o.start = t.length + 1) ↔ ∃ i r, Form v i r := by
  have hsplit : t ++ ' ' :: v = (t ++ [' ']) ++ v := by simp
  have hlength : t.length + 1 = (t ++ [' ']).length := by simp
  rw [exists_occurrence_iff, hsplit, hlength, List.take_left, List.drop_left, List.getLast?_append]
  exact and_iff_right rfl

/-- **What stands beside the gaps of a separated text.** In front of each gap that is put in stands an
identifier that is found there. Behind it another one is found if and only if the text is not left
dangling there. Where no gap is put in two identifiers touch if and only if the first one is a legacy
identifier. -/
theorem beside_gaps_separate (t : Text) :
    (∀ a ∈ separatedOccurrences t, (∃ b ∈ separatedOccurrences t, b.start = a.stop) ↔
        a.identifier.isLegacy = true ∧ ∃ i r, Form ((separate t).drop a.stop) i r) ∧
      ∃ ps, Spaced t (separate t) ps ∧ ∀ us vs, ps = us ++ vs → us ≠ [] → vs ≠ [] →
        (∃ a ∈ separatedOccurrences t, a.stop = (joinWords us).length ∧
            a.identifier.isLegacy = false) ∧
          ((∃ b ∈ separatedOccurrences t, b.start = (joinWords us).length + 1) ↔
            ¬Dangling (joinWords vs)) := by
  refine ⟨fun a ha => touching_iff ha, ?_⟩
  obtain ⟨ps, hcut, hspaced⟩ := exists_cut_separate t
  refine ⟨ps, hspaced, ?_⟩
  rintro us vs rfl hus hvs
  obtain ⟨⟨u, i, hu, hopens, hi, hlegacy⟩, hbare⟩ := hcut.of_append hus hvs
  have hseparate : separate t = joinWords us ++ ' ' :: joinWords vs := by
    rw [← joinWords_append hus hvs, hspaced.spaced]
  rw [separatedOccurrences, hseparate, exists_occurrence_space_iff,
    ← forall_not_form_iff_dangling hbare]
  constructor
  · rw [Option.or_none] at hopens
    rw [hu]
    refine ⟨⟨i, u.length⟩, mem_occurrences_of_space hopens hi _, ?_, hlegacy⟩
    rw [Occurrence.stop, List.length_append]
  · simp only [not_forall, not_not]

/-- A text in which both happens: a system identifier that is none gets a space, and a legacy identifier
gets none. -/
theorem beside_gaps_separate_dangling :
    let t := "@a.b@gv_x_ @gv_npc_a1_hp-=@c.d".toList
    (separate t = "@a.b @gv_x_ @gv_npc_a1_hp-=@c.d".toList ∧
        ¬∃ b ∈ separatedOccurrences t, b.start = 5) ∧
      ∃ a ∈ separatedOccurrences t, ∃ b ∈ separatedOccurrences t, b.start = a.stop := by
  intro t
  have hseparate : separate t = "@a.b @gv_x_ @gv_npc_a1_hp-=@c.d".toList := by decide +kernel
  obtain ⟨htouching, ps, hspaced, hgaps⟩ := beside_gaps_separate t
  refine ⟨⟨hseparate, ?_⟩, ?_⟩
  · have hpieces : Spaced t (separate t)
        ["@a.b".toList, "@gv_x_ @gv_npc_a1_hp-=@c.d".toList] :=
      ⟨List.cons_ne_nil _ _, rfl, by rw [hseparate]; rfl, by simp⟩
    obtain rfl := hspaced.unique hpieces
    have hdangling : Dangling "@gv_x_ @gv_npc_a1_hp-=@c.d".toList := by
      have hread : Identifier.read "@gv_x_ @gv_npc_a1_hp-=@c.d".toList = none := by decide +kernel
      refine (forall_not_form_iff_dangling (by decide)).1 fun i r hi => ?_
      rw [← read_eq_some_iff, hread] at hi
      cases hi
    exact fun h => (hgaps [_] [_] rfl (by simp) (by simp)).2.1 h hdangling
  · have ha : ⟨.legacy "npc".toList "a1".toList "hp".toList, 12⟩ ∈ separatedOccurrences t := by
      decide +kernel
    refine ⟨_, ha, (htouching _ ha).2 ⟨rfl, .display "c".toList "d".toList none, [], ?_⟩⟩
    rw [← read_eq_some_iff]
    decide +kernel

end LiveText
