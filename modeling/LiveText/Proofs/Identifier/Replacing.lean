import LiveText.Proofs.Identifier.Occurrences
import LiveText.Proofs.Identifier.Separation
import LiveText.Resolution

/-!
# Replacing identifiers that may not fit

Where the identifiers of a separated text are replaced by others, the new text has the replacements
for its identifiers if and only if each of them fits in its place (`identifiersOf_replaced_iff`).

One direction is `Reading.map_of_fits`. For the other one the two texts are compared from the left.
Up to the first replacement that does not fit they are taken apart alike. There some identifier is
read, since a replacement that `Resembles` what it replaces always looks like one, but it is not the
replacement; so the identifiers differ from there on.
-/

set_option autoImplicit false

namespace LiveText

open Text Identifier

/-! ## The identifiers of a token sequence -/

/-- The identifier that a token is. -/
def Token.identifier? : Token → Option Identifier
  | .char _ => none
  | .identifier i => some i

/-- The identifiers of a token sequence, in order. -/
def identifiersOf (ts : List Token) : List Identifier := ts.filterMap Token.identifier?

@[simp] theorem identifiersOf_char (c : Char) (ts : List Token) :
    identifiersOf (.char c :: ts) = identifiersOf ts := rfl

@[simp] theorem identifiersOf_identifier (i : Identifier) (ts : List Token) :
    identifiersOf (.identifier i :: ts) = i :: identifiersOf ts := rfl

theorem identifiersOf_append (us vs : List Token) :
    identifiersOf (us ++ vs) = identifiersOf us ++ identifiersOf vs :=
  List.filterMap_append

theorem identifiersOf_chars (t : Text) : identifiersOf (t.map Token.char) = [] := by
  induction t with
  | nil => rfl
  | cons c t ih => exact ih

theorem identifiersOf_eq_flatMap (ts : List Token) :
    identifiersOf ts = ts.flatMap fun t => identifiersOf [t] := by
  rw [identifiersOf, List.filterMap_eq_flatMap_toList]
  refine List.flatMap_congr fun t _ => ?_
  cases t with
  | char c => rfl
  | identifier i => rfl

theorem identifiersOf_map (g : Identifier → Identifier) (ts : List Token) :
    identifiersOf (ts.map (Token.map g)) = (identifiersOf ts).map g := by
  induction ts with
  | nil => rfl
  | cons t ts ih =>
    cases t with
    | char c => exact ih
    | identifier i => exact congrArg (g i :: ·) ih

theorem map_identifier_occurrencesFrom (start : Nat) (ts : List Token) :
    (occurrencesFrom start ts).map (·.identifier) = identifiersOf ts := by
  induction ts generalizing start with
  | nil => rfl
  | cons t ts ih =>
    cases t with
    | char c => exact ih (start + 1)
    | identifier i => exact congrArg (i :: ·) (ih (start + i.text.length))

/-- The identifiers of a text are those of its tokens, once it is separated. -/
theorem identifiers_eq (t : Text) : identifiers t = identifiersOf (tokens (separate t)) :=
  map_identifier_occurrencesFrom 0 _

/-- Replacements fit into a text if each of them stands where the identifier stands that it
replaces. -/
theorem fits_tokens_iff {g : Identifier → Identifier} {t : Text} :
    Fits g (tokens t) ↔ ∀ o ∈ occurrences t, StandsBefore (g o.identifier) (t.drop o.stop) := by
  rw [fits_iff_forall, forall_occurrences_iff (P := fun i s => StandsBefore (g i) s)]

/-! ## Separating and reading -/

/-- Where an identifier may start, the first token of a separated text is the one that is read. -/
theorem exists_tokensAfter_separateAfter {prev : Option Char} {t r : Text} {i : Identifier}
    (ho : opensAfter prev = true) (h : Identifier.read t = some (i, r)) :
    ∃ ts, tokensAfter prev (separateAfter prev t) = .identifier i :: ts := by
  obtain rfl := read_append h
  cases hgap : i.needsGap r with
  | true => exact ⟨_, tokensAfter_separateAfter_gap ho h hgap⟩
  | false => exact ⟨_, tokensAfter_separateAfter_noGap ho h hgap⟩

/-- One identifier is not told from another one before it is read: what opens behind the one opens
behind the other one, both need a gap or none does, and where the other one stands some identifier is
read from the text of the one. -/
structure Identifier.Resembles (j i : Identifier) : Prop where
  opens : opensAfter j.lastChar = opensAfter i.lastChar
  isLegacy : j.isLegacy = i.isLegacy
  reads : ∀ s, StandsBefore i s → ∃ q, Identifier.read (j.text ++ s) = some q

theorem Identifier.Resembles.refl (i : Identifier) : i.Resembles i :=
  ⟨rfl, rfl, fun _ h => ⟨_, h⟩⟩

section
variable {g : Identifier → Identifier} {prev prev' : Option Char} {ts : List Token}

/-- Replacements fit if the replaced text has them for its identifiers. -/
theorem Reading.fits_of_identifiersOf (h : Reading prev ts) (hgap : NoGap ts)
    (hg : ∀ i, .identifier i ∈ ts → (g i).Resembles i)
    (hprev : opensAfter prev' = opensAfter prev)
    (heq : identifiersOf (tokensAfter prev' (separateAfter prev' (written (ts.map (Token.map g))))) =
      (identifiersOf ts).map g) : Fits g ts := by
  induction h generalizing prev' with
  | nil => trivial
  | @char prev c ts h _ ih =>
    have hnone := readAfter_none_congr h (sameStart_written_map g ts) hprev.symm
    rw [List.map_cons, Token.map, written_cons, Token.text, List.singleton_append,
      tokensAfter_separateAfter_none hnone, identifiersOf_char, identifiersOf_char] at heq
    exact ih hgap (fun i hi => hg i (List.mem_cons_of_mem _ hi)) rfl heq
  | @identifier prev i ts ho h hrest ih =>
    have hi := hg i List.mem_cons_self
    have hstart := sameStart_written_map g ts
    rw [List.map_cons, Token.map, written_cons, Token.text, identifiersOf_identifier, List.map_cons]
      at heq
    -- whatever is read where the replacement is, it is the replacement
    have hstands : StandsBefore (g i) (written (ts.map (Token.map g))) := by
      obtain ⟨⟨j, r⟩, hread⟩ := hi.reads _ (h.congr hstart)
      obtain ⟨us, hus⟩ := exists_tokensAfter_separateAfter (hprev.trans ho) hread
      rw [hus, identifiersOf_identifier] at heq
      obtain rfl : j = g i := (List.cons.inj heq).1
      have hr := List.append_cancel_left (read_append hread)
      rw [StandsBefore, hread, hr]
    rw [tokensAfter_separateAfter_noGap (hprev.trans ho) hstands
      (needsGap_map hrest hi.isLegacy hgap.1), identifiersOf_identifier, List.cons.injEq] at heq
    exact ⟨hstands.congr hstart.symm,
      ih hgap.2 (fun j hj => hg j (List.mem_cons_of_mem _ hj)) hi.opens heq.2⟩

/-- **Replacements are read back if and only if each of them fits.** -/
theorem identifiersOf_replaced_iff (h : Reading none ts) (hgap : NoGap ts)
    (hg : ∀ i, .identifier i ∈ ts → (g i).Resembles i) :
    identifiersOf (tokens (separate (written (ts.map (Token.map g))))) = (identifiersOf ts).map g ↔
      Fits g ts := by
  refine ⟨h.fits_of_identifiersOf hgap hg rfl, fun hfits => ?_⟩
  have hread : Reading none (ts.map (Token.map g)) :=
    h.map_of_fits rfl hfits fun i hi => (hg i hi).opens
  have hgap' := hgap.map_of_isLegacy h fun i hi => (hg i hi).isLegacy
  rw [separate_written hread hgap', hread.tokens_eq, identifiersOf_map]

end

end LiveText
