import Mathlib.Data.List.Nodup
import LiveText.Proofs.Identifier.Grammar
import LiveText.Proofs.Identifier.Tokens

/-!
# Where the identifiers of a text stand

A text is scanned from the left, and what one identifier covers is not looked at again. Still it can
be told of every offset on its own whether an identifier is found there: the text has a form of it at
the offset, and the character in front of it, if there is one, is no word character (`StandsAt`).
Nothing is hidden by what comes before, since an identifier holds no at sign behind its first
character (`WellFormed.read_drop`).

## What is here

* `mem_occurrencesFrom` says where the identifiers of a token sequence stand, `Reading.of_split` and
  `Reading.exists_split` what that means for a reading.
* `mem_occurrences_iff`: an identifier is found where it stands.
* `Located` is what is promised of the occurrences of a text, **`located_occurrences`** says that it
  is kept.
-/

set_option autoImplicit false

namespace LiveText

open Text Identifier

/-! ## Tokens and offsets -/

/-- An identifier is reported at the length of what stands in front of it. -/
theorem mem_occurrencesFrom {ts : List Token} {o : Occurrence} {start : Nat} :
    o ∈ occurrencesFrom start ts ↔
      ∃ us vs, ts = us ++ .identifier o.identifier :: vs ∧ o.start = start + (written us).length := by
  induction ts generalizing start with
  | nil => simp [occurrencesFrom]
  | cons t ts ih =>
    cases t with
    | char c =>
      rw [occurrencesFrom, ih]
      constructor
      · rintro ⟨us, vs, rfl, hstart⟩
        exact ⟨.char c :: us, vs, rfl, by simp [hstart, Token.text]; omega⟩
      · rintro ⟨us, vs, hts, hstart⟩
        cases us with
        | nil => cases hts
        | cons u us =>
          cases hts
          exact ⟨us, vs, rfl, by simp [hstart, Token.text]; omega⟩
    | identifier i =>
      rw [occurrencesFrom, List.mem_cons, ih]
      constructor
      · rintro (rfl | ⟨us, vs, rfl, hstart⟩)
        · exact ⟨[], ts, rfl, rfl⟩
        · exact ⟨.identifier i :: us, vs, rfl, by simp [hstart, Token.text]; omega⟩
      · rintro ⟨us, vs, hts, hstart⟩
        cases us with
        | nil =>
          obtain ⟨hi, -⟩ := List.cons.inj hts
          cases o
          cases hi
          cases hstart
          exact .inl rfl
        | cons u us =>
          cases hts
          exact .inr ⟨us, vs, rfl, by simp [hstart, Token.text]; omega⟩

/-- The identifiers stand one behind the other. -/
theorem pairwise_occurrencesFrom (start : Nat) (ts : List Token) :
    (occurrencesFrom start ts).Pairwise fun a b => a.start < b.start ∧ a.stop ≤ b.start := by
  induction ts generalizing start with
  | nil => exact .nil
  | cons t ts ih =>
    cases t with
    | char c => exact ih (start + 1)
    | identifier i =>
      refine .cons (fun o ho => ?_) (ih (start + i.text.length))
      obtain ⟨us, vs, -, hstart⟩ := mem_occurrencesFrom.1 ho
      have hpos := i.length_text_pos
      rw [Occurrence.stop]
      dsimp only
      omega

/-- An identifier has a last character. -/
theorem Identifier.lastChar_or (i : Identifier) (prev : Option Char) :
    i.lastChar.or prev = i.lastChar := by
  rw [lastChar, text, List.getLast?_cons]
  rfl

/-- Inside of a well-formed identifier nothing is read: its only at sign is its first character. -/
theorem Identifier.WellFormed.read_drop {i : Identifier} (hi : i.WellFormed) {p : Nat}
    (hp : p < i.body.length) (s : Text) : Identifier.read (i.body.drop p ++ s) = none := by
  rw [List.drop_eq_getElem_cons hp, List.cons_append]
  refine read_of_ne_at (fun h => hi.at_not_mem_body ?_) _
  exact h ▸ List.getElem_mem hp

section
variable {prev : Option Char} {ts : List Token}

/-- An identifier of a reading may start where it starts, and stands before what follows. -/
theorem Reading.of_split (h : Reading prev ts) {us vs : List Token} {i : Identifier}
    (hts : ts = us ++ .identifier i :: vs) :
    opensAfter ((written us).getLast?.or prev) = true ∧ StandsBefore i (written vs) := by
  induction us generalizing prev ts with
  | nil =>
    subst hts
    cases h with
    | identifier ho h _ => exact ⟨ho, h⟩
  | cons u us ih =>
    subst hts
    cases h with
    | char _ rest =>
      have := ih rest rfl
      rw [written_cons, Token.text, List.singleton_append, getLast?_cons_or]
      exact this
    | @identifier _ j _ _ _ rest =>
      have := ih rest rfl
      rw [written_cons, Token.text, List.getLast?_append, Option.or_assoc, ← lastChar, lastChar_or]
      exact this

/-- What may be read from a reading at an offset is one of its identifiers. -/
theorem Reading.exists_split (h : Reading prev ts) {p : Nat} {i : Identifier} {r : Text}
    (ho : opensAfter (((written ts).take p).getLast?.or prev) = true)
    (hread : Identifier.read ((written ts).drop p) = some (i, r)) :
    ∃ us vs, ts = us ++ .identifier i :: vs ∧ p = (written us).length := by
  induction h generalizing p with
  | nil prev => cases p <;> cases hread
  | @char prev c ts h _ ih =>
    cases p with
    | zero =>
      have ho : opensAfter prev = true := ho
      rw [readAfter, if_pos ho] at h
      rw [List.drop_zero, written_cons, Token.text, List.singleton_append, h] at hread
      cases hread
    | succ p =>
      rw [written_cons, Token.text, List.singleton_append, List.take_succ_cons, getLast?_cons_or] at ho
      rw [written_cons, Token.text, List.singleton_append, List.drop_succ_cons] at hread
      obtain ⟨us, vs, rfl, rfl⟩ := ih ho hread
      exact ⟨.char c :: us, vs, rfl, by simp [Token.text]⟩
  | @identifier prev j ts _ h _ ih =>
    rw [written_cons, Token.text] at ho hread
    rcases Nat.lt_or_ge p j.text.length with hlt | hge
    · cases p with
      | zero =>
        rw [List.drop_zero, h] at hread
        cases hread
        exact ⟨[], ts, rfl, rfl⟩
      | succ p =>
        have hp : p < j.body.length := Nat.lt_of_succ_lt_succ hlt
        rw [Identifier.text, List.cons_append, List.drop_succ_cons,
          List.drop_append_of_le_length (Nat.le_of_lt hp), (wellFormed_of_read h).read_drop hp] at hread
        cases hread
    · obtain ⟨q, rfl⟩ := Nat.exists_eq_add_of_le hge
      rw [List.drop_length_add_append] at hread
      rw [List.take_length_add_append, List.getLast?_append, Option.or_assoc, ← lastChar,
        lastChar_or] at ho
      obtain ⟨us, vs, rfl, rfl⟩ := ih ho hread
      exact ⟨.identifier j :: us, vs, rfl, by simp [Token.text]⟩

end

/-! ## Offsets of a text -/

/-- An identifier stands at an offset of a text: the text has a form of it there, and no word goes on
into it. -/
def StandsAt (t : Text) (p : Nat) (i : Identifier) : Prop :=
  (p = 0 ∨ ∃ c, t[p - 1]? = some c ∧ isWord c = false) ∧ ∃ r, Form (t.drop p) i r

theorem opensAfter_getLast?_take {t : Text} {p : Nat} (hp : p < t.length) :
    opensAfter (t.take p).getLast? = true ↔
      p = 0 ∨ ∃ c, t[p - 1]? = some c ∧ isWord c = false := by
  cases p with
  | zero => simp [opensAfter]
  | succ p =>
    have hget : t[p]? = some t[p] := List.getElem?_eq_getElem (Nat.lt_of_succ_lt hp)
    simp [List.getLast?_take, hget, opensAfter]

/-- An identifier that stands at an offset may be read there. -/
theorem standsAt_iff {t : Text} {p : Nat} {i : Identifier} :
    StandsAt t p i ↔
      opensAfter (t.take p).getLast? = true ∧ ∃ r, Identifier.read (t.drop p) = some (i, r) := by
  simp only [StandsAt, ← read_eq_some_iff]
  refine and_congr_left fun ⟨r, hr⟩ => (opensAfter_getLast?_take ?_).symm
  have hlt := length_lt_of_read hr
  rw [List.length_drop] at hlt
  omega

/-- At an offset there is one identifier at most. -/
theorem StandsAt.unique {t : Text} {p : Nat} {i j : Identifier} (hi : StandsAt t p i)
    (hj : StandsAt t p j) : i = j := by
  obtain ⟨-, r, hr⟩ := standsAt_iff.1 hi
  obtain ⟨-, s, hs⟩ := standsAt_iff.1 hj
  rw [hr] at hs
  cases hs
  rfl

/-- A text consists of what is in front of an identifier, the identifier, and what is behind it. -/
theorem eq_of_tokens_eq {t : Text} {us vs : List Token} {i : Identifier}
    (hts : tokens t = us ++ .identifier i :: vs) : t = written us ++ (i.text ++ written vs) := by
  rw [← written_tokens t, hts, written_append, written_cons, Token.text]

/-- An occurrence lies between what is in front of it and what is behind it. -/
theorem exists_split_of_mem_occurrences {t : Text} {o : Occurrence} (ho : o ∈ occurrences t) :
    ∃ us vs, tokens t = us ++ .identifier o.identifier :: vs ∧ o.start = (written us).length ∧
      t = written us ++ (o.identifier.text ++ written vs) := by
  obtain ⟨us, vs, hts, hstart⟩ := mem_occurrencesFrom.1 ho
  exact ⟨us, vs, hts, by rw [hstart, Nat.zero_add], eq_of_tokens_eq hts⟩

/-- What is found in a text is written there. -/
theorem slice_of_mem_occurrences {t : Text} {o : Occurrence} (ho : o ∈ occurrences t) :
    (t.take o.stop).drop o.start = o.identifier.text := by
  obtain ⟨us, vs, -, hstart, ht⟩ := exists_split_of_mem_occurrences ho
  rw [Occurrence.stop, hstart, ht, ← List.append_assoc, ← List.length_append, List.take_left,
    List.drop_left]

/-- What holds of every identifier of a text and of what stands behind it. -/
theorem forall_occurrences_iff {t : Text} {P : Identifier → Text → Prop} :
    (∀ o ∈ occurrences t, P o.identifier (t.drop o.stop)) ↔
      ∀ us i vs, tokens t = us ++ .identifier i :: vs → P i (written vs) := by
  have hdrop : ∀ us i vs, tokens t = us ++ .identifier i :: vs →
      t.drop ((written us).length + i.text.length) = written vs := by
    intro us i vs hts
    rw [eq_of_tokens_eq hts, ← List.append_assoc, ← List.length_append, List.drop_left]
  constructor
  · intro h us i vs hts
    have ho := h ⟨i, (written us).length⟩ (mem_occurrencesFrom.2 ⟨us, vs, hts, (Nat.zero_add _).symm⟩)
    rwa [Occurrence.stop, hdrop us i vs hts] at ho
  · intro h o ho
    obtain ⟨us, vs, hts, hstart, -⟩ := exists_split_of_mem_occurrences ho
    rw [Occurrence.stop, hstart, hdrop us _ vs hts]
    exact h us _ vs hts

/-- An identifier stands before what is behind it. -/
theorem standsBefore_of_mem_occurrences {t : Text} :
    ∀ o ∈ occurrences t, StandsBefore o.identifier (t.drop o.stop) :=
  forall_occurrences_iff.2 fun _ _ _ hts => ((reading_tokens t).of_split hts).2

/-- **An identifier is found where it stands**, and nowhere else. -/
theorem mem_occurrences_iff {t : Text} {p : Nat} {i : Identifier} :
    ⟨i, p⟩ ∈ occurrences t ↔ StandsAt t p i := by
  rw [standsAt_iff]
  constructor
  · intro h
    obtain ⟨us, vs, hts, rfl, ht⟩ := exists_split_of_mem_occurrences h
    obtain ⟨hopens, hstands⟩ := (reading_tokens t).of_split hts
    rw [Option.or_none] at hopens
    rw [ht, List.take_left, List.drop_left]
    exact ⟨hopens, written vs, hstands⟩
  · rintro ⟨hopens, r, hread⟩
    have h := reading_tokens t
    rw [← written_tokens t] at hopens hread
    rw [← Option.or_none (o := ((written (tokens t)).take p).getLast?)] at hopens
    obtain ⟨us, vs, hts, rfl⟩ := h.exists_split hopens hread
    exact mem_occurrencesFrom.2 ⟨us, vs, hts, (Nat.zero_add _).symm⟩

/-- What is promised of the occurrences of a text. -/
structure Located (t : Text) (os : List Occurrence) : Prop where
  /-- where an identifier stands, it is found once, and nothing else is -/
  one : ∀ p i, StandsAt t p i → os.filter (·.start = p) = [⟨i, p⟩]
  /-- where none stands, none is found -/
  none : ∀ p, (∀ i, ¬StandsAt t p i) → os.filter (·.start = p) = []
  /-- what is found is in order, and nothing overlaps -/
  ordered : os.Pairwise fun a b => a.start < b.start ∧ a.stop ≤ b.start
  /-- it is written where it is found -/
  slice : ∀ o ∈ os, (t.take o.stop).drop o.start = o.identifier.text
  /-- and its only at sign is its first character -/
  count_at : ∀ o ∈ os, o.identifier.text.head? = some '@' ∧ o.identifier.text.count '@' = 1

/-- **The occurrences of a text are the identifiers that stand in it**, offset by offset. -/
theorem located_occurrences (t : Text) : Located t (occurrences t) := by
  have hordered : (occurrences t).Pairwise fun a b => a.start < b.start ∧ a.stop ≤ b.start :=
    pairwise_occurrencesFrom 0 (tokens t)
  refine ⟨fun p i hi => ?_, fun p hnone => ?_, hordered, fun _ => slice_of_mem_occurrences,
    fun o ho => ?_⟩
  · have hmem : ⟨i, p⟩ ∈ occurrences t := mem_occurrences_iff.2 hi
    have hnodup : (occurrences t).Nodup := by
      refine hordered.imp fun hab => ?_
      rintro rfl
      exact Nat.lt_irrefl _ hab.1
    have hsame : ∀ o ∈ occurrences t, decide (o.start = p) = decide (o = ⟨i, p⟩) := by
      rintro ⟨j, q⟩ ho
      rw [decide_eq_decide, Occurrence.mk.injEq]
      refine ⟨?_, fun h => h.2⟩
      rintro rfl
      exact ⟨(mem_occurrences_iff.1 ho).unique hi, rfl⟩
    rw [List.filter_congr hsame, List.filter_eq, List.count_eq_one_of_mem hnodup hmem]
    rfl
  · rw [List.filter_eq_nil_iff]
    rintro ⟨j, q⟩ ho hq
    obtain rfl : q = p := of_decide_eq_true hq
    exact hnone j (mem_occurrences_iff.1 ho)
  · obtain ⟨us, vs, hts, -, -⟩ := exists_split_of_mem_occurrences ho
    have hwell := (reading_tokens t).wellFormed (hts ▸ List.mem_append_right us List.mem_cons_self)
    rw [Identifier.text, List.count_cons_self, List.count_eq_zero_of_not_mem hwell.at_not_mem_body]
    exact ⟨rfl, rfl⟩

/-- An id that is cut back before a lone underscore, a source that looks like an id, with a short id
that is too long, and a legacy identifier right behind it. -/
theorem located_occurrences_forms :
    let t := "@gv_a-b-_ @gv_x.hp#abcdefg @gv_npc_a1_hp-=".toList
    StandsAt t 0 (.system "a-b".toList none) ∧
      (occurrences t).filter (·.start = 10) = [⟨.display "gv_x".toList "hp".toList none, 10⟩] ∧
      (occurrences t).filter (·.start = 27) =
        [⟨.legacy "npc".toList "a1".toList "hp".toList, 27⟩] := by
  intro t
  have h := located_occurrences t
  have stands : ∀ {p : Nat} {i : Identifier}, ⟨i, p⟩ ∈ occurrences t → StandsAt t p i :=
    mem_occurrences_iff.1
  refine ⟨stands ?_, h.one 10 _ (stands ?_), h.one 27 _ (stands ?_)⟩
  · decide +kernel
  · decide +kernel
  · decide +kernel

end LiveText
