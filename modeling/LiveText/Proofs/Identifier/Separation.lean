import LiveText.Proofs.Identifier.Tokens

/-!
# What separating identifiers does to a text

Separating puts spaces into a text, each of them right behind an identifier. Nothing that was read
before is read differently afterwards: a space and the at sign that it is put in front of are both
stops. So the tokens of the separated text are the old ones, with spaces between them and with the
identifiers that the spaces open (`tokensAfter_separateAfter_gap` and its companions).

Once a text is separated no gap is missing (`noGap_separateAfter`), so separating it once more
changes nothing (`separate_separate`), and no identifier is lost
(`identifier_mem_tokens_separate`).
-/

set_option autoImplicit false

namespace LiveText

open Text Identifier

/-! ## Separating, step by step -/

section
variable {prev : Option Char} {i : Identifier} {r : Text}

theorem separateAfter_some (ho : opensAfter prev = true) (h : StandsBefore i r) :
    separateAfter prev (i.text ++ r) =
      if i.needsGap r then i.text ++ ' ' :: separateAfter (some ' ') r
      else i.text ++ separateAfter i.lastChar r := by
  have hr : readAfter prev (i.text ++ r) = some (i, r) := readAfter_eq_some_iff.2 ⟨ho, rfl, h⟩
  rw [separateAfter]
  split
  · next j s hj =>
    rw [hr] at hj
    cases hj
    rfl
  · next hj =>
    rw [hr] at hj
    cases hj

theorem separateAfter_gap (ho : opensAfter prev = true) (h : StandsBefore i r)
    (hgap : i.needsGap r = true) :
    separateAfter prev (i.text ++ r) = i.text ++ ' ' :: separateAfter (some ' ') r := by
  rw [separateAfter_some ho h, if_pos hgap]

theorem separateAfter_noGap (ho : opensAfter prev = true) (h : StandsBefore i r)
    (hgap : i.needsGap r = false) :
    separateAfter prev (i.text ++ r) = i.text ++ separateAfter i.lastChar r := by
  rw [separateAfter_some ho h, if_neg (by simp [hgap])]

theorem separateAfter_none {c : Char} {t : Text} (h : readAfter prev (c :: t) = none) :
    separateAfter prev (c :: t) = c :: separateAfter (some c) t := by
  rw [separateAfter]
  split
  · next j s hj =>
    rw [h] at hj
    cases hj
  · rfl

theorem separateAfter_nil (prev : Option Char) : separateAfter prev [] = [] := by
  rw [separateAfter]
  split
  · next j s hj => exact absurd (length_lt_of_readAfter hj) (Nat.not_lt_zero _)
  · rfl

end

/-! ## Where no gap is missing -/

/-- No space belongs between an identifier and what stands behind it. -/
def NoGap : List Token → Prop
  | [] => True
  | .char _ :: ts => NoGap ts
  | .identifier i :: ts => i.needsGap (written ts) = false ∧ NoGap ts

/-- A text in which no gap is missing is left as it is. -/
theorem separateAfter_written {prev : Option Char} {ts : List Token} (h : Reading prev ts)
    (hgap : NoGap ts) : separateAfter prev (written ts) = written ts := by
  induction h with
  | nil prev => exact separateAfter_nil prev
  | char h _ ih =>
    rw [written_cons, Token.text, List.singleton_append, separateAfter_none h, ih hgap]
  | identifier ho h _ ih =>
    rw [written_cons, Token.text, separateAfter_noGap ho h hgap.1, ih hgap.2]

/-- Replacing identifiers opens no gap behind one of them, unless a legacy identifier is replaced by
one of another form. -/
theorem needsGap_map {g : Identifier → Identifier} {i : Identifier} {prev : Option Char}
    {ts : List Token} (h : Reading prev ts) (hg : (g i).isLegacy = i.isLegacy)
    (hgap : i.needsGap (written ts) = false) :
    (g i).needsGap (written (ts.map (Token.map g))) = false := by
  rw [needsGap, Bool.and_eq_false_iff] at hgap ⊢
  rw [hg]
  refine hgap.imp_right fun hbare => ?_
  cases h with
  | nil => rfl
  | @char _ c ts _ _ => rwa [written_cons, Token.text, List.singleton_append,
      startsBare_congr (sameStart_written_map g ts) c] at hbare
  | identifier _ h _ =>
    -- only a legacy identifier has another one right behind it
    rw [written_cons, Token.text, startsBare_of_read h] at hbare
    exact Bool.noConfusion hbare

theorem NoGap.map_of_isLegacy {g : Identifier → Identifier} {prev : Option Char} {ts : List Token}
    (hgap : NoGap ts) (h : Reading prev ts)
    (hg : ∀ i, .identifier i ∈ ts → (g i).isLegacy = i.isLegacy) :
    NoGap (ts.map (Token.map g)) := by
  induction h with
  | nil => trivial
  | char _ _ ih => exact ih hgap fun i hi => hg i (List.mem_cons_of_mem _ hi)
  | identifier _ _ hrest ih =>
    exact ⟨needsGap_map hrest (hg _ List.mem_cons_self) hgap.1,
      ih hgap.2 fun i hi => hg i (List.mem_cons_of_mem _ hi)⟩

theorem NoGap.map {g : Identifier → Identifier} {prev : Option Char} {ts : List Token}
    (hgap : NoGap ts) (h : Reading prev ts)
    (hg : ∀ i, .identifier i ∈ ts → (g i).Replaces i ∧ (g i).isLegacy = i.isLegacy) :
    NoGap (ts.map (Token.map g)) :=
  hgap.map_of_isLegacy h fun i hi => (hg i hi).2

/-- Where no identifier starts, none starts behind another character, if that opens what the first one
opens or if nothing there looks like an identifier. -/
theorem readAfter_none_of_hidden {p q : Option Char} {c : Char} {s t : Text}
    (h : readAfter p (c :: s) = none) (hst : SameStart s t)
    (hpq : opensAfter q = opensAfter p ∨ startsBare (c :: s) = false) :
    readAfter q (c :: t) = none := by
  rcases hpq with hpq | hbare
  · exact readAfter_none_congr h hst hpq.symm
  · rw [Option.eq_none_iff_forall_ne_some]
    intro r hr
    have hstarts := startsBare_of_read (read_of_readAfter hr)
    rw [← startsBare_congr hst, hbare] at hstarts
    cases hstarts

/-- Identifiers between which no gap is missing can be replaced by others that fit, whatever they
end in: behind an identifier that no mark closes no other one follows. -/
theorem Reading.map_of_noGap {g : Identifier → Identifier} {prev prev' : Option Char}
    {ts : List Token} (h : Reading prev ts) (hgap : NoGap ts)
    (hprev : opensAfter prev' = opensAfter prev ∨ startsBare (written ts) = false)
    (hfits : Fits g ts) (hg : ∀ i, .identifier i ∈ ts → i.isLegacy = true → g i = i) :
    Reading prev' (ts.map (Token.map g)) := by
  induction h generalizing prev' with
  | nil prev => exact .nil prev'
  | @char prev c ts h _ ih =>
    have hstart := sameStart_written_map g ts
    refine .char ?_ (ih hgap (.inl rfl) hfits fun i hi => hg i (List.mem_cons_of_mem _ hi))
    exact readAfter_none_of_hidden h hstart hprev
  | @identifier prev i ts ho h _ ih =>
    have hprev := hprev.resolve_right fun hbare => by
      rw [written_cons, Token.text, startsBare_of_read h] at hbare
      cases hbare
    refine .identifier (hprev.trans ho) (hfits.1.congr (sameStart_written_map g ts)) ?_
    refine ih hgap.2 ?_ hfits.2 fun j hj => hg j (List.mem_cons_of_mem _ hj)
    have hneeds := hgap.1
    rw [needsGap, Bool.and_eq_false_iff, Bool.not_eq_false'] at hneeds
    exact hneeds.imp_left fun hi => by rw [hg i List.mem_cons_self hi]

/-! ## The separated text -/

/-- Spaces are put behind identifiers only, so a text and the separated text start alike. -/
theorem sameStart_separateAfter (prev : Option Char) (t : Text) :
    SameStart t (separateAfter prev t) := by
  fun_induction separateAfter prev t with
  | case1 prev t i r h _ _ =>
    obtain ⟨-, rfl, -⟩ := readAfter_eq_some_iff.1 h
    exact sameStart_of_stops (i.stops_text_append _) (i.stops_text_append _)
  | case2 prev t i r h _ _ =>
    obtain ⟨-, rfl, -⟩ := readAfter_eq_some_iff.1 h
    exact sameStart_of_stops (i.stops_text_append _) (i.stops_text_append _)
  | case3 => exact sameStart_of_stops stops_nil stops_nil
  | case4 prev c cs _ ih => exact ih.cons c

/-- A gap is wanted only before an at sign. -/
theorem at_of_needsGap {i : Identifier} {r : Text} (h : i.needsGap r = true) :
    ∃ v, r = '@' :: v := by
  rw [needsGap, Bool.and_eq_true] at h
  exact at_of_startsBare h.2

theorem stops_of_needsGap {i : Identifier} {r : Text} (h : i.needsGap r = true) : Stops r := by
  obtain ⟨v, rfl⟩ := at_of_needsGap h
  exact stops_at v

section
variable {prev : Option Char} {i : Identifier} {r : Text}

theorem tokensAfter_separateAfter_gap (ho : opensAfter prev = true) (h : StandsBefore i r)
    (hgap : i.needsGap r = true) :
    tokensAfter prev (separateAfter prev (i.text ++ r)) =
      .identifier i :: .char ' ' :: tokensAfter (some ' ') (separateAfter (some ' ') r) := by
  have hs : StandsBefore i (' ' :: separateAfter (some ' ') r) :=
    h.congr (sameStart_of_stops (stops_of_needsGap hgap) (stops_space _))
  rw [separateAfter_gap ho h hgap, tokensAfter_some ho hs,
    tokensAfter_none (readAfter_of_ne_at _ (by decide) _)]

theorem tokensAfter_separateAfter_noGap (ho : opensAfter prev = true) (h : StandsBefore i r)
    (hgap : i.needsGap r = false) :
    tokensAfter prev (separateAfter prev (i.text ++ r)) =
      .identifier i :: tokensAfter i.lastChar (separateAfter i.lastChar r) := by
  rw [separateAfter_noGap ho h hgap,
    tokensAfter_some ho (h.congr (sameStart_separateAfter i.lastChar r))]

theorem tokensAfter_separateAfter_none {c : Char} {t : Text}
    (h : readAfter prev (c :: t) = none) :
    tokensAfter prev (separateAfter prev (c :: t)) =
      .char c :: tokensAfter (some c) (separateAfter (some c) t) := by
  rw [separateAfter_none h,
    tokensAfter_none (readAfter_none_congr h (sameStart_separateAfter (some c) t) rfl)]

end

/-- A separated text begins like an identifier if the text does. -/
theorem startsBare_separateAfter (prev : Option Char) (t : Text) :
    startsBare (separateAfter prev t) = startsBare t := by
  have atIdentifier : ∀ {i : Identifier} {r s : Text}, StandsBefore i r → StandsBefore i s →
      startsBare (i.text ++ s) = startsBare (i.text ++ r) :=
    fun hr hs => (startsBare_of_read hs).trans (startsBare_of_read hr).symm
  fun_induction separateAfter prev t with
  | case1 prev t i r h hgap _ =>
    obtain ⟨-, rfl, hi⟩ := readAfter_eq_some_iff.1 h
    exact atIdentifier hi
      (hi.congr (sameStart_of_stops (stops_of_needsGap hgap) (stops_space _)))
  | case2 prev t i r h _ _ =>
    obtain ⟨-, rfl, hi⟩ := readAfter_eq_some_iff.1 h
    exact atIdentifier hi (hi.congr (sameStart_separateAfter i.lastChar r))
  | case3 => rfl
  | case4 prev c cs _ _ => exact (startsBare_congr (sameStart_separateAfter (some c) cs) c).symm

/-- No gap is missing in a separated text. -/
theorem noGap_separateAfter (prev : Option Char) (t : Text) :
    NoGap (tokensAfter prev (separateAfter prev t)) := by
  fun_induction separateAfter prev t with
  | case1 prev t i r h hgap ih =>
    obtain ⟨ho, rfl, hi⟩ := readAfter_eq_some_iff.1 h
    rw [← separateAfter_gap ho hi hgap, tokensAfter_separateAfter_gap ho hi hgap]
    refine ⟨?_, ih⟩
    simp [needsGap, startsBare, Token.text]
  | case2 prev t i r h hgap ih =>
    obtain ⟨ho, rfl, hi⟩ := readAfter_eq_some_iff.1 h
    have hgap : i.needsGap r = false := by simpa using hgap
    rw [← separateAfter_noGap ho hi hgap, tokensAfter_separateAfter_noGap ho hi hgap]
    refine ⟨?_, ih⟩
    rw [written_tokensAfter, needsGap, startsBare_separateAfter]
    exact hgap
  | case3 prev h =>
    rw [tokensAfter_nil]
    trivial
  | case4 prev c cs h ih =>
    rw [← separateAfter_none h, tokensAfter_separateAfter_none h]
    exact ih

theorem noGap_tokens_separate (t : Text) : NoGap (tokens (separate t)) := noGap_separateAfter none t

theorem separate_written {ts : List Token} (h : Reading none ts) (hgap : NoGap ts) :
    separate (written ts) = written ts :=
  separateAfter_written h hgap

/-- **Separating twice is separating once.** -/
theorem separate_separate (t : Text) : separate (separate t) = separate t := by
  have h := separate_written (reading_tokens (separate t)) (noGap_tokens_separate t)
  rwa [written_tokens] at h

/-! ## No identifier is lost -/

/-- Behind a space, where every identifier may start, no fewer identifiers are found. -/
theorem identifier_mem_tokensAfter_space {i : Identifier} {prev : Option Char} {t : Text}
    (h : .identifier i ∈ tokensAfter prev t) : .identifier i ∈ tokensAfter (some ' ') t := by
  cases ho : opensAfter prev with
  | true => rwa [tokensAfter_congr (q := some ' ') ho] at h
  | false =>
    cases t with
    | nil => rwa [tokensAfter_nil] at h ⊢
    | cons c cs =>
      rw [tokensAfter_none (readAfter_of_not_opens ho _)] at h
      replace h := (List.mem_cons.1 h).resolve_left (by simp)
      cases hr : readAfter (some ' ') (c :: cs) with
      | none =>
        rw [tokensAfter_none hr]
        exact List.mem_cons_of_mem _ h
      | some q =>
        -- the space opens an identifier that the word character hides; its text holds no other one
        obtain ⟨j, r⟩ := q
        obtain ⟨hj, hcs, hs⟩ := readAfter_eq_some_iff.1 hr
        obtain ⟨rfl, rfl⟩ := List.cons.inj hcs
        have hat : '@' ∉ j.body := (wellFormed_of_read hs).at_not_mem_body
        change _ ∈ tokensAfter (some '@') (j.body ++ r) at h
        rw [tokensAfter_append_of_no_at hat, getLast?_body_or, List.mem_append] at h
        rw [hcs, tokensAfter_some hj hs]
        refine List.mem_cons_of_mem _ (h.resolve_left ?_)
        simp

theorem identifier_mem_tokensAfter_separateAfter {i : Identifier} {prev : Option Char} {t : Text}
    (h : .identifier i ∈ tokensAfter prev t) :
    .identifier i ∈ tokensAfter prev (separateAfter prev t) := by
  fun_induction separateAfter prev t with
  | case1 prev t j r hr hgap ih =>
    obtain ⟨ho, rfl, hj⟩ := readAfter_eq_some_iff.1 hr
    rw [tokensAfter_some ho hj, List.mem_cons] at h
    rw [← separateAfter_gap ho hj hgap, tokensAfter_separateAfter_gap ho hj hgap, List.mem_cons,
      List.mem_cons]
    exact h.imp_right fun h => .inr (ih (identifier_mem_tokensAfter_space h))
  | case2 prev t j r hr hgap ih =>
    obtain ⟨ho, rfl, hj⟩ := readAfter_eq_some_iff.1 hr
    have hgap : j.needsGap r = false := by simpa using hgap
    rw [tokensAfter_some ho hj, List.mem_cons] at h
    rw [← separateAfter_noGap ho hj hgap, tokensAfter_separateAfter_noGap ho hj hgap, List.mem_cons]
    exact h.imp_right ih
  | case3 prev hr => exact h
  | case4 prev c cs hr ih =>
    rw [tokensAfter_none hr, List.mem_cons] at h
    rw [← separateAfter_none hr, tokensAfter_separateAfter_none hr, List.mem_cons]
    exact h.imp_right ih

/-- **Separating loses no identifier.** -/
theorem identifier_mem_tokens_separate {i : Identifier} {t : Text}
    (h : .identifier i ∈ tokens t) : .identifier i ∈ tokens (separate t) :=
  identifier_mem_tokensAfter_separateAfter h

end LiveText
