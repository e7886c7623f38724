import LiveText.Proofs.Identifier.Appending
import LiveText.Proofs.Identifier.Replacing

/-!
# Texts put together

The identifiers of a text that is put together of two parts are those of the parts, unless the seam
makes an identifier longer or hides one. `Seam` says that it does neither: what comes second begins
with a stop unless nothing is open where the first part ends, and if it begins with an identifier, this
one can be seen from the first part (`identifiers_append_seam`). An identifier at the end of the first
part hides nothing, since a gap is put behind it when the text is separated.

A text that is taken apart without being separated may hold identifiers that are not found. Those are
the ones that stand right behind another one which hides them, and there are no others
(`identifiers_eq_iff_noneHidden`).

## What is here

* `identifiersAfter` is what is found behind a character, step by step.
* `identifiersAfter_append` is the induction behind `identifiers_append_seam`.
* `identifiers_append_blank`: a blank is a seam of its own.
* `sublist_identifiersAfter`: separating a text loses none of its identifiers, and keeps their order.
-/

set_option autoImplicit false

namespace LiveText

open Text Identifier

/-! ## Step by step -/

/-- The identifiers of a text that follows the character `prev`, once it is separated. -/
def identifiersAfter (prev : Option Char) (t : Text) : List Identifier :=
  identifiersOf (tokensAfter prev (separateAfter prev t))

theorem identifiers_eq_after (t : Text) : identifiers t = identifiersAfter none t := identifiers_eq t

theorem identifiersAfter_nil (prev : Option Char) : identifiersAfter prev [] = [] := by
  rw [identifiersAfter, separateAfter_nil, tokensAfter_nil]
  rfl

theorem identifiersAfter_congr {p q : Option Char} (h : opensAfter p = opensAfter q) (t : Text) :
    identifiersAfter p t = identifiersAfter q t := by
  rw [identifiersAfter, identifiersAfter, separateAfter_congr h, tokensAfter_congr h]

section
variable {prev : Option Char} {i : Identifier} {r : Text}

theorem identifiersAfter_gap (ho : opensAfter prev = true) (h : StandsBefore i r)
    (hgap : i.needsGap r = true) :
    identifiersAfter prev (i.text ++ r) = i :: identifiersAfter (some ' ') r := by
  rw [identifiersAfter, tokensAfter_separateAfter_gap ho h hgap]
  rfl

theorem identifiersAfter_noGap (ho : opensAfter prev = true) (h : StandsBefore i r)
    (hgap : i.needsGap r = false) :
    identifiersAfter prev (i.text ++ r) = i :: identifiersAfter i.lastChar r := by
  rw [identifiersAfter, tokensAfter_separateAfter_noGap ho h hgap]
  rfl

theorem identifiersAfter_none {c : Char} {t : Text} (h : readAfter prev (c :: t) = none) :
    identifiersAfter prev (c :: t) = identifiersAfter (some c) t := by
  rw [identifiersAfter, tokensAfter_separateAfter_none h]
  rfl

end

/-- Where no identifier stands at the beginning of a text, it does not matter what it follows. -/
theorem identifiersAfter_of_read_none {t : Text} (h : Identifier.read t = none) (p q : Option Char) :
    identifiersAfter p t = identifiersAfter q t := by
  have hnone : ∀ p, readAfter p t = none := fun p => by rw [readAfter, h, ite_self]
  cases t with
  | nil => rw [identifiersAfter_nil, identifiersAfter_nil]
  | cons c t => rw [identifiersAfter_none (hnone p), identifiersAfter_none (hnone q)]

/-! ## Seams -/

/-- The second text makes nothing in the first one longer: it begins with a stop, or whatever an at
sign of the first text could open has come to a stop already. -/
def Apart (p q : Text) : Prop :=
  Stops q ∨ ∀ u v, p = u ++ '@' :: v → ∃ c ∈ v, isStop c = true

theorem sameStart_append_of_mem {c : Char} {r : Text} (hc : isStop c = true) (hr : c ∈ r)
    (q : Text) : SameStart r (r ++ q) := by
  obtain ⟨x, y, rfl⟩ := List.append_of_mem hr
  exact ⟨x, c :: y, c :: y ++ q, rfl, List.append_assoc x (c :: y) q, stops_cons hc y,
    stops_cons hc (y ++ q)⟩

section
variable {p q : Text}

theorem Apart.right {u : Text} (h : Apart (u ++ p) q) : Apart p q := by
  refine h.imp_right fun hends v w hp => hends (u ++ v) w ?_
  rw [hp, List.append_assoc]

/-- What is behind an at sign starts the same. -/
theorem Apart.sameStart_at (h : Apart ('@' :: p) q) : SameStart p (p ++ q) := by
  rcases h with hq | hends
  · exact sameStart_append hq p
  · obtain ⟨c, hc, hstop⟩ := hends [] p rfl
    exact sameStart_append_of_mem hstop hc q

/-- What is behind an identifier starts the same. -/
theorem Apart.sameStart_text {i : Identifier} (hi : i.WellFormed) (h : Apart (i.text ++ p) q) :
    SameStart p (p ++ q) := by
  rcases h with hq | hends
  · exact sameStart_append hq p
  · obtain ⟨c, hc, hstop⟩ := hends [] (i.body ++ p) rfl
    rcases List.mem_append.1 hc with hc | hc
    · rw [hi.not_isStop c hc] at hstop
      exact Bool.noConfusion hstop
    · exact sameStart_append_of_mem hstop hc q

theorem Apart.needsGap (h : Apart p q) (i : Identifier) (hp : p ≠ []) :
    i.needsGap (p ++ q) = i.needsGap p := by
  obtain ⟨c, p, rfl⟩ := List.exists_cons_of_ne_nil hp
  rw [Identifier.needsGap, Identifier.needsGap, List.cons_append]
  by_cases hc : c = '@'
  · subst hc
    rw [startsBare_congr h.sameStart_at]
  · rw [startsBare_of_ne_at hc, startsBare_of_ne_at hc]

/-- Where no identifier is read in the first text, none is read in both. -/
theorem Apart.readAfter_none {prev : Option Char} {c : Char} (h : Apart (c :: p) q)
    (hread : readAfter prev (c :: p) = none) : readAfter prev (c :: (p ++ q)) = none := by
  by_cases hc : c = '@'
  · subst hc
    exact readAfter_none_congr hread h.sameStart_at rfl
  · exact readAfter_of_ne_at prev hc (p ++ q)

end

/-- An identifier at the beginning of the second text can be seen behind the first one, if this one
follows the character `prev`. -/
def SeenBehind (prev : Option Char) (p q : Text) : Prop :=
  Identifier.read q = none ∨ opensAfter (p.getLast?.or prev) = true ∨
    ∃ j, (tokensAfter prev (separateAfter prev p)).getLast? = some (.identifier j)

/-- Where no gap is put in front of it, an identifier can be seen behind another one. -/
theorem seenBehind_identifier {i : Identifier} {q : Text} (hgap : i.needsGap q = false) :
    SeenBehind i.lastChar [] q := by
  rw [needsGap, Bool.and_eq_false_iff, Bool.not_eq_false'] at hgap
  rcases hgap with hlegacy | hbare
  · exact .inr (.inl (opensAfter_lastChar_of_isLegacy hlegacy))
  · refine .inl (Option.eq_none_iff_forall_ne_some.2 fun s hs => ?_)
    rw [startsBare_of_read hs] at hbare
    exact Bool.noConfusion hbare

/-- What can be seen behind an identifier and a text can be seen behind the text. -/
theorem SeenBehind.behind {prev next : Option Char} {i : Identifier} {r q : Text}
    (h : SeenBehind prev (i.text ++ r) q) (hr : r ≠ []) (ts : List Token)
    (htokens : tokensAfter prev (separateAfter prev (i.text ++ r)) =
      .identifier i :: ts ++ tokensAfter next (separateAfter next r)) : SeenBehind next r q := by
  obtain ⟨c, hc⟩ : ∃ c, r.getLast? = some c := Option.ne_none_iff_exists'.1 fun h =>
    hr (List.getLast?_eq_none_iff.1 h)
  have hne : tokensAfter next (separateAfter next r) ≠ [] := by
    intro hnil
    have hwritten := written_tokensAfter next (separateAfter next r)
    rw [hnil] at hwritten
    have hlast := getLast?_separateAfter next r
    rw [← hwritten, hc] at hlast
    cases hlast
  rcases h with h | h | ⟨j, hj⟩
  · exact .inl h
  · rw [List.getLast?_append, hc, Option.some_or, Option.some_or] at h
    rw [SeenBehind, hc]
    exact .inr (.inl h)
  · rw [htokens, List.getLast?_append_of_ne_nil _ hne] at hj
    exact .inr (.inr ⟨j, hj⟩)

/-- What can be seen behind a character that is none of an identifier and a text can be seen behind
the text. -/
theorem SeenBehind.tail {prev : Option Char} {c : Char} {p q : Text} (h : SeenBehind prev (c :: p) q)
    (hread : readAfter prev (c :: p) = none) : SeenBehind (some c) p q := by
  rcases h with h | h | ⟨j, hj⟩
  · exact .inl h
  · rw [getLast?_cons_or] at h
    exact .inr (.inl h)
  · rw [tokensAfter_separateAfter_none hread, List.getLast?_cons] at hj
    cases hlast : (tokensAfter (some c) (separateAfter (some c) p)).getLast? with
    | none =>
      rw [hlast] at hj
      cases hj
    | some t =>
      rw [hlast] at hj
      exact .inr (.inr ⟨j, hlast.trans hj⟩)

/-- The induction behind `identifiers_append_seam`, on the first text. -/
theorem identifiersAfter_append {prev : Option Char} {p q : Text} (hapart : Apart p q)
    (hseen : SeenBehind prev p q) :
    identifiersAfter prev (p ++ q) = identifiersAfter prev p ++ identifiersAfter none q := by
  fun_induction separateAfter prev p with
  | case1 prev p i r h hgap ih =>
    obtain ⟨ho, rfl, hi⟩ := readAfter_eq_some_iff.1 h
    have hstart : SameStart r (r ++ q) := hapart.sameStart_text (wellFormed_of_read hi)
    have hr : r ≠ [] := by
      obtain ⟨v, rfl⟩ := at_of_needsGap hgap
      exact List.cons_ne_nil _ v
    have hnext : SeenBehind (some ' ') r q :=
      hseen.behind hr [.char ' '] (tokensAfter_separateAfter_gap ho hi hgap)
    rw [List.append_assoc, identifiersAfter_gap ho (hi.congr hstart)
      ((hapart.right.needsGap i hr).trans hgap), identifiersAfter_gap ho hi hgap,
      ih hapart.right hnext]
    rfl
  | case2 prev p i r h hgap ih =>
    obtain ⟨ho, rfl, hi⟩ := readAfter_eq_some_iff.1 h
    have hgap : i.needsGap r = false := by simpa using hgap
    have hstands : StandsBefore i (r ++ q) :=
      hi.congr (hapart.sameStart_text (wellFormed_of_read hi))
    rw [List.append_assoc, identifiersAfter_noGap ho hi hgap]
    cases hgap' : i.needsGap (r ++ q) with
    | true =>
      -- the gap is put between the two texts
      have hr : r = [] := by_contra fun hr => by
        rw [hapart.right.needsGap i hr, hgap] at hgap'
        exact Bool.noConfusion hgap'
      subst hr
      rw [identifiersAfter_gap ho hstands hgap', identifiersAfter_nil]
      exact congrArg (i :: ·) (identifiersAfter_congr (by rfl) q)
    | false =>
      have hnext : SeenBehind i.lastChar r q := by
        cases r with
        | nil => exact seenBehind_identifier hgap'
        | cons c r =>
          exact hseen.behind (List.cons_ne_nil c r) []
            (tokensAfter_separateAfter_noGap ho hi hgap)
      rw [identifiersAfter_noGap ho hstands hgap', ih hapart.right hnext]
      rfl
  | case3 prev h =>
    rw [identifiersAfter_nil, List.nil_append, List.nil_append]
    rcases hseen with hread | ho | ⟨j, hj⟩
    · exact identifiersAfter_of_read_none hread prev none
    · exact identifiersAfter_congr ho q
    · rw [separateAfter_nil, tokensAfter_nil] at hj
      cases hj
  | case4 prev c p h ih =>
    have hrest : Apart p q := Apart.right (u := [c]) hapart
    rw [List.cons_append, identifiersAfter_none (hapart.readAfter_none h), identifiersAfter_none h,
      ih hrest (hseen.tail h)]

/-- Where two texts are put together, no identifier is made longer or hidden: the texts are apart, and
an identifier at the beginning of the second one can be seen, or has another one in front of it. -/
def Seam (p q : Text) : Prop := Apart p q ∧ SeenBehind none p q

/-- **The identifiers of a text that is put together** are those of its parts. -/
theorem identifiers_append_seam {p q : Text} (h : Seam p q) :
    identifiers (p ++ q) = identifiers p ++ identifiers q := by
  rw [identifiers_eq_after, identifiers_eq_after, identifiers_eq_after]
  exact identifiersAfter_append h.1 h.2

theorem seam_nil_left (q : Text) : Seam [] q :=
  ⟨.inr fun u v h => absurd h.symm (List.append_ne_nil_of_right_ne_nil u (List.cons_ne_nil '@' v)),
    .inr (.inl rfl)⟩

theorem seam_nil_right (p : Text) : Seam p [] := ⟨.inl stops_nil, .inl rfl⟩

/-! ## Blanks -/

/-- **A blank is a seam of its own.** -/
theorem identifiers_append_blank {c : Char} (hc : isBlank c = true) (p q : Text) :
    identifiers (p ++ c :: q) = identifiers p ++ identifiers q := by
  have hread : Identifier.read (c :: q) = none := read_of_ne_at (not_at_of_isBlank hc) q
  have hblank : identifiers (c :: q) = identifiers q := by
    rw [identifiers_eq_after, identifiers_eq_after,
      identifiersAfter_none (readAfter_of_ne_at none (not_at_of_isBlank hc) q),
      identifiersAfter_congr (opensAfter_of_isBlank hc)]
  rw [identifiers_append_seam ⟨.inl (stops_cons (isStop_of_isBlank hc) q), .inl hread⟩, hblank]

/-! ## What is found without separating -/

section
variable {prev : Option Char} {j : Identifier} {r : Text}

/-- An identifier that is hidden is found where it can be seen, and no other one is lost. -/
theorem identifiersOf_hidden (ho : opensAfter prev = false) (h : StandsBefore j r) :
    identifiersOf (tokensAfter prev (j.text ++ r)) = identifiersOf (tokensAfter j.lastChar r) := by
  have hat : '@' ∉ j.body := (wellFormed_of_read h).at_not_mem_body
  rw [Identifier.text, List.cons_append, tokensAfter_none (readAfter_of_not_opens ho _),
    tokensAfter_append_of_no_at hat, getLast?_body_or, identifiersOf_char, identifiersOf_append,
    identifiersOf_chars, List.nil_append]

/-- Behind a space no fewer identifiers are found. -/
theorem sublist_identifiersOf_space (prev : Option Char) (t : Text) :
    (identifiersOf (tokensAfter prev t)).Sublist (identifiersOf (tokensAfter (some ' ') t)) := by
  cases ho : opensAfter prev with
  | true => rw [tokensAfter_congr (q := some ' ') ho]
  | false =>
    cases hread : Identifier.read t with
    | none =>
      have hnone : ∀ p, readAfter p t = none := fun p => by rw [readAfter, hread, ite_self]
      cases t with
      | nil => rw [tokensAfter_nil, tokensAfter_nil]
      | cons c t => rw [tokensAfter_none (hnone prev), tokensAfter_none (hnone (some ' '))]
    | some s =>
      obtain ⟨j, r⟩ := s
      obtain rfl := read_append hread
      rw [identifiersOf_hidden ho hread, tokensAfter_some (by rfl) hread, identifiersOf_identifier]
      exact List.sublist_cons_self _ _

/-- **Separating loses no identifier**, and keeps their order. -/
theorem sublist_identifiersAfter (prev : Option Char) (t : Text) :
    (identifiersOf (tokensAfter prev t)).Sublist (identifiersAfter prev t) := by
  fun_induction separateAfter prev t with
  | case1 prev t i r h hgap ih =>
    obtain ⟨ho, rfl, hi⟩ := readAfter_eq_some_iff.1 h
    rw [tokensAfter_some ho hi, identifiersAfter_gap ho hi hgap, identifiersOf_identifier]
    exact ((sublist_identifiersOf_space i.lastChar r).trans ih).cons_cons i
  | case2 prev t i r h hgap ih =>
    obtain ⟨ho, rfl, hi⟩ := readAfter_eq_some_iff.1 h
    rw [tokensAfter_some ho hi, identifiersAfter_noGap ho hi (by simpa using hgap),
      identifiersOf_identifier]
    exact ih.cons_cons i
  | case3 prev h =>
    rw [tokensAfter_nil]
    exact List.nil_sublist _
  | case4 prev c t h ih =>
    rw [tokensAfter_none h, identifiersAfter_none h, identifiersOf_char]
    exact ih

end

/-- What stands behind the identifier is not hidden by it. -/
def ShownBehind (i : Identifier) (t : Text) : Prop :=
  Identifier.read t = none ∨ opensAfter i.lastChar = true

section
variable {prev : Option Char} {i j : Identifier} {r : Text}

theorem identifiersAfter_of_shownBehind (ho : opensAfter prev = true) (h : StandsBefore i r)
    (hshown : ShownBehind i r) :
    identifiersAfter prev (i.text ++ r) = i :: identifiersAfter i.lastChar r := by
  cases hgap : i.needsGap r with
  | false => exact identifiersAfter_noGap ho h hgap
  | true =>
    rw [identifiersAfter_gap ho h hgap]
    refine congrArg (i :: ·) ?_
    rcases hshown with hread | hopens
    · exact identifiersAfter_of_read_none hread _ _
    · have hspace : opensAfter (some ' ') = opensAfter i.lastChar := hopens.symm
      exact identifiersAfter_congr hspace r

/-- An identifier that is hidden is found in addition to all others once the text is separated. -/
theorem sublist_of_hidden (ho : opensAfter prev = false) (h : StandsBefore j r) :
    (j :: identifiersOf (tokensAfter prev (j.text ++ r))).Sublist
      (identifiersAfter (some ' ') (j.text ++ r)) := by
  rw [identifiersOf_hidden ho h]
  cases hgap : j.needsGap r with
  | true =>
    rw [identifiersAfter_gap (by rfl) h hgap]
    exact ((sublist_identifiersOf_space _ r).trans (sublist_identifiersAfter _ r)).cons_cons j
  | false =>
    rw [identifiersAfter_noGap (by rfl) h hgap]
    exact (sublist_identifiersAfter _ r).cons_cons j

end

/-- Separating finds no other identifiers if and only if none is hidden. -/
theorem Reading.identifiersAfter_eq_iff {prev : Option Char} {ts : List Token}
    (h : Reading prev ts) :
    identifiersAfter prev (written ts) = identifiersOf ts ↔
      ∀ us i vs, ts = us ++ .identifier i :: vs → ShownBehind i (written vs) := by
  induction h with
  | nil prev =>
    refine iff_of_true (identifiersAfter_nil prev) fun us i vs hts => ?_
    exact absurd hts.symm (List.append_ne_nil_of_right_ne_nil us (List.cons_ne_nil _ vs))
  | @char prev c ts h _ ih =>
    rw [written_cons, Token.text, List.singleton_append, identifiersAfter_none h,
      identifiersOf_char, ih, forall_split_cons_iff]
    exact (and_iff_right fun i hi => Token.noConfusion hi).symm
  | @identifier prev i ts ho h hrest ih =>
    rw [written_cons, Token.text, identifiersOf_identifier, forall_split_cons_iff, ← ih]
    by_cases hshown : ShownBehind i (written ts)
    · rw [identifiersAfter_of_shownBehind ho h hshown, List.cons_inj_right]
      refine (and_iff_right ?_).symm
      rintro j ⟨⟩
      exact hshown
    · refine iff_of_false (fun heq => ?_) fun hall => hshown (hall.1 i rfl)
      obtain ⟨hread, hopens⟩ := not_or.1 hshown
      obtain ⟨⟨j, r⟩, hj⟩ := Option.ne_none_iff_exists'.1 hread
      have hgap : i.needsGap (written ts) = true := by
        rw [needsGap, startsBare_of_read hj, Bool.and_true, Bool.not_eq_true']
        exact Bool.eq_false_iff.2 fun hlegacy => hopens (opensAfter_lastChar_of_isLegacy hlegacy)
      rw [identifiersAfter_gap ho h hgap, List.cons_inj_right] at heq
      have htokens := hrest.tokensAfter_eq
      have htext := read_append hj
      rw [htext] at hj heq htokens
      have hmore := sublist_of_hidden (Bool.eq_false_iff.2 hopens) hj
      rw [heq, htokens] at hmore
      exact absurd hmore.length_le (Nat.not_succ_le_self _)

/-- No identifier of the text hides another one that stands right behind it. -/
def NoneHidden (t : Text) : Prop := ∀ o ∈ occurrences t, ShownBehind o.identifier (t.drop o.stop)

/-- **Separating a text finds no other identifiers in it** if and only if none is hidden. -/
theorem identifiers_eq_iff_noneHidden {t : Text} :
    identifiers t = (occurrences t).map (·.identifier) ↔ NoneHidden t := by
  have h := (reading_tokens t).identifiersAfter_eq_iff
  rw [written_tokens, ← identifiers_eq_after, ← map_identifier_occurrencesFrom 0] at h
  exact h.trans forall_occurrences_iff.symm

/-- A text that is taken apart without being separated has no other identifiers, nor in another
order. -/
theorem sublist_identifiers (t : Text) :
    ((occurrences t).map (·.identifier)).Sublist (identifiers t) := by
  have hsub := sublist_identifiersAfter none t
  rwa [← identifiers_eq_after, ← map_identifier_occurrencesFrom 0] at hsub

end LiveText
