import Mathlib.Data.List.Basic
import LiveText.Proofs.Identifier.Shape

/-!
# Token sequences that read back

The tokens of a text make up the text, but not every token sequence consists of the tokens of the
text that it makes up: two identifiers run into each other, or one swallows the characters behind
it. `Reading` says, token by token, when a sequence does read back.

The point of the relation is `Reading.map_of_fits`: where identifiers are replaced by others that fit
in their places, the new text is taken apart at exactly the places where the old one was. Everything
that rewrites the identifiers of a text rests on it.

## What is here

* `tokensAfter_some` and `tokensAfter_none` are the two steps of taking a text apart.
* `Reading`, with `reading_tokensAfter` and `Reading.tokensAfter_eq`: the tokens of a text are a
  reading, and a reading consists of the tokens of its text.
* `Fits`, `Reading.map_of_fits`: replacing identifiers in place; `Identifier.Replaces`, `Reading.map`:
  the case that one identifier can take the place of another one in every text.
-/

set_option autoImplicit false

namespace LiveText

open Text Identifier

/-! ## Taking a text apart, step by step -/

theorem readAfter_eq_some_iff {prev : Option Char} {t r : Text} {i : Identifier} :
    readAfter prev t = some (i, r) ↔
      opensAfter prev = true ∧ t = i.text ++ r ∧ StandsBefore i r := by
  rw [readAfter]
  split
  · next ho =>
    constructor
    · intro h
      obtain rfl := read_append h
      exact ⟨ho, rfl, h⟩
    · rintro ⟨-, rfl, h⟩
      exact h
  · next ho => simp [ho]

theorem tokensAfter_some {prev : Option Char} {i : Identifier} {r : Text}
    (ho : opensAfter prev = true) (h : StandsBefore i r) :
    tokensAfter prev (i.text ++ r) = .identifier i :: tokensAfter i.lastChar r := by
  have hr : readAfter prev (i.text ++ r) = some (i, r) := readAfter_eq_some_iff.2 ⟨ho, rfl, h⟩
  rw [tokensAfter]
  split
  · next j s hj =>
    rw [hr] at hj
    cases hj
    rfl
  · next hj =>
    rw [hr] at hj
    cases hj

theorem tokensAfter_none {prev : Option Char} {c : Char} {t : Text}
    (h : readAfter prev (c :: t) = none) :
    tokensAfter prev (c :: t) = .char c :: tokensAfter (some c) t := by
  rw [tokensAfter]
  split
  · next j s hj =>
    rw [h] at hj
    cases hj
  · rfl

theorem tokensAfter_nil (prev : Option Char) : tokensAfter prev [] = [] := by
  rw [tokensAfter]
  split
  · next j s hj =>
    have := length_lt_of_readAfter hj
    exact absurd this (Nat.not_lt_zero _)
  · rfl

/-- Only an at sign opens an identifier. -/
theorem readAfter_of_ne_at (prev : Option Char) {c : Char} (h : c ≠ '@') (t : Text) :
    readAfter prev (c :: t) = none := by
  rw [readAfter, read_of_ne_at h]
  exact ite_self none

/-- Nothing opens behind a word character. -/
theorem readAfter_of_not_opens {prev : Option Char} (h : opensAfter prev = false) (t : Text) :
    readAfter prev t = none := by
  rw [readAfter, h]
  rfl

/-- Of the character in front of a text it only matters whether an identifier may start behind
it. -/
theorem tokensAfter_congr {p q : Option Char} (h : opensAfter p = opensAfter q) (t : Text) :
    tokensAfter p t = tokensAfter q t := by
  have hread : readAfter p t = readAfter q t := by rw [readAfter, readAfter, h]
  cases hr : readAfter p t with
  | none =>
    cases t with
    | nil => rw [tokensAfter_nil, tokensAfter_nil]
    | cons c cs => rw [tokensAfter_none hr, tokensAfter_none (hread ▸ hr)]
  | some r =>
    obtain ⟨ho, ht, hi⟩ := readAfter_eq_some_iff.1 hr
    rw [ht, tokensAfter_some ho hi, tokensAfter_some (h ▸ ho) hi]

/-- Without an at sign there is nothing to read. -/
theorem tokensAfter_append_of_no_at {u : Text} (hu : '@' ∉ u) (prev : Option Char) (t : Text) :
    tokensAfter prev (u ++ t) =
      u.map Token.char ++ tokensAfter (u.getLast?.or prev) t := by
  induction u generalizing prev with
  | nil => rfl
  | cons c u ih =>
    rw [List.mem_cons, not_or] at hu
    rw [List.cons_append, tokensAfter_none (readAfter_of_ne_at prev (Ne.symm hu.1) _), ih hu.2,
      getLast?_cons_or]
    rfl

/-! ## Readings -/

/-- The text that tokens make up. -/
def written (ts : List Token) : Text := ts.flatMap Token.text

@[simp] theorem written_nil : written [] = [] := rfl

@[simp] theorem written_cons (t : Token) (ts : List Token) :
    written (t :: ts) = t.text ++ written ts := rfl

theorem written_append (us vs : List Token) : written (us ++ vs) = written us ++ written vs :=
  List.flatMap_append

theorem written_tokensAfter (prev : Option Char) (t : Text) : written (tokensAfter prev t) = t :=
  text_tokensAfter prev t

/-- The token sequences that a text, which follows the character `prev`, is taken apart into. -/
inductive Reading : Option Char → List Token → Prop
  | nil (prev : Option Char) : Reading prev []
  | char {prev : Option Char} {c : Char} {ts : List Token}
      (h : readAfter prev (c :: written ts) = none) (rest : Reading (some c) ts) :
      Reading prev (.char c :: ts)
  | identifier {prev : Option Char} {i : Identifier} {ts : List Token}
      (ho : opensAfter prev = true) (h : StandsBefore i (written ts))
      (rest : Reading i.lastChar ts) : Reading prev (.identifier i :: ts)

/-- A text is taken apart into a reading. -/
theorem reading_tokensAfter (prev : Option Char) (t : Text) : Reading prev (tokensAfter prev t) := by
  fun_induction tokensAfter prev t with
  | case1 prev t i r h ih =>
    obtain ⟨ho, -, hi⟩ := readAfter_eq_some_iff.1 h
    refine .identifier ho ?_ ih
    rwa [written_tokensAfter]
  | case2 prev h => exact .nil prev
  | case3 prev c cs h ih =>
    refine .char ?_ ih
    rwa [written_tokensAfter]

/-- A reading consists of the tokens of the text that it makes up. -/
theorem Reading.tokensAfter_eq {prev : Option Char} {ts : List Token} (h : Reading prev ts) :
    tokensAfter prev (written ts) = ts := by
  induction h with
  | nil prev => exact tokensAfter_nil prev
  | char h _ ih =>
    rw [written_cons, Token.text, List.singleton_append, tokensAfter_none h, ih]
  | identifier ho h _ ih => rw [written_cons, Token.text, tokensAfter_some ho h, ih]

theorem written_tokens (t : Text) : written (tokens t) = t := text_tokens t

theorem reading_tokens (t : Text) : Reading none (tokens t) := reading_tokensAfter none t

theorem Reading.tokens_eq {ts : List Token} (h : Reading none ts) : tokens (written ts) = ts :=
  h.tokensAfter_eq

/-- The identifiers of a reading are well-formed. -/
theorem Reading.wellFormed {prev : Option Char} {ts : List Token} (h : Reading prev ts)
    {i : Identifier} (hi : .identifier i ∈ ts) : i.WellFormed := by
  induction h with
  | nil => exact absurd hi List.not_mem_nil
  | char _ _ ih => exact ih ((List.mem_cons.1 hi).resolve_left (by simp))
  | identifier _ h _ ih =>
    rcases List.mem_cons.1 hi with hi | hi
    · cases hi
      exact wellFormed_of_read h
    · exact ih hi

/-! ## Replacing identifiers -/

/-- A token with its identifier replaced. -/
def Token.map (g : Identifier → Identifier) : Token → Token
  | .char c => .char c
  | .identifier i => .identifier (g i)

/-- One identifier can take the place of another one in every text: it stands wherever the other
one stands, and what stands right behind it opens there if it opens behind the other one. -/
structure Identifier.Replaces (j i : Identifier) : Prop where
  standsBefore : ∀ s, StandsBefore i s → StandsBefore j s
  opens : opensAfter j.lastChar = opensAfter i.lastChar

/-- The text of an identifier begins with a stop. -/
theorem Identifier.stops_text_append (i : Identifier) (s : Text) : Stops (i.text ++ s) := by
  rw [Identifier.text, List.cons_append]
  exact stops_at _

/-- Replacing identifiers changes nothing in front of the first one. -/
theorem sameStart_written_map (g : Identifier → Identifier) (ts : List Token) :
    SameStart (written ts) (written (ts.map (Token.map g))) := by
  induction ts with
  | nil => exact sameStart_of_stops stops_nil stops_nil
  | cons t ts ih =>
    cases t with
    | char c => exact ih.cons c
    | identifier i =>
      exact sameStart_of_stops (i.stops_text_append _) ((g i).stops_text_append _)

/-- Every replacement stands where the identifier stands that it replaces. -/
def Fits (g : Identifier → Identifier) : List Token → Prop
  | [] => True
  | .char _ :: ts => Fits g ts
  | .identifier i :: ts => StandsBefore (g i) (written ts) ∧ Fits g ts

/-- What holds of each identifier of tokens and of what stands behind it. -/
theorem forall_split_cons_iff {P : Identifier → Text → Prop} {t : Token} {ts : List Token} :
    (∀ us i vs, t :: ts = us ++ .identifier i :: vs → P i (written vs)) ↔
      (∀ i, t = .identifier i → P i (written ts)) ∧
        ∀ us i vs, ts = us ++ .identifier i :: vs → P i (written vs) := by
  constructor
  · intro h
    refine ⟨?_, fun us i vs hts => h (t :: us) i vs (by rw [hts]; rfl)⟩
    rintro i rfl
    exact h [] i ts rfl
  · rintro ⟨hhead, htail⟩ us i vs hts
    cases us with
    | nil =>
      obtain ⟨rfl, rfl⟩ := List.cons.inj hts
      exact hhead i rfl
    | cons u us => exact htail us i vs (List.cons.inj hts).2

/-- Fitting is a matter of each identifier and what stands behind it. -/
theorem fits_iff_forall {g : Identifier → Identifier} {ts : List Token} :
    Fits g ts ↔ ∀ us i vs, ts = us ++ .identifier i :: vs → StandsBefore (g i) (written vs) := by
  induction ts with
  | nil => simp [Fits]
  | cons t ts ih =>
    rw [forall_split_cons_iff, ← ih]
    cases t with
    | char c => exact (and_iff_right fun i hi => Token.noConfusion hi).symm
    | identifier j =>
      refine and_congr_left fun _ => ⟨?_, fun h => h j rfl⟩
      rintro h i ⟨⟩
      exact h

/-- Replacements that stand wherever the identifiers stand that they replace fit into every text. -/
theorem Reading.fits {g : Identifier → Identifier} {prev : Option Char} {ts : List Token}
    (h : Reading prev ts)
    (hg : ∀ i, .identifier i ∈ ts → ∀ s, StandsBefore i s → StandsBefore (g i) s) : Fits g ts := by
  induction h with
  | nil => trivial
  | char _ _ ih => exact ih fun i hi => hg i (List.mem_cons_of_mem _ hi)
  | identifier _ h _ ih =>
    exact ⟨hg _ List.mem_cons_self _ h, ih fun i hi => hg i (List.mem_cons_of_mem _ hi)⟩

/-- **Identifiers can be replaced in place** by identifiers that fit: the tokens of the new text are
the old ones with their identifiers replaced. -/
theorem Reading.map_of_fits {g : Identifier → Identifier} {prev prev' : Option Char}
    {ts : List Token} (h : Reading prev ts) (hprev : opensAfter prev' = opensAfter prev)
    (hfits : Fits g ts)
    (hopens : ∀ i, .identifier i ∈ ts → opensAfter (g i).lastChar = opensAfter i.lastChar) :
    Reading prev' (ts.map (Token.map g)) := by
  induction h generalizing prev' with
  | nil prev => exact .nil prev'
  | @char prev c ts h _ ih =>
    refine .char ?_ (ih rfl hfits fun i hi => hopens i (List.mem_cons_of_mem _ hi))
    exact readAfter_none_congr h (sameStart_written_map g ts) hprev.symm
  | @identifier prev i ts ho _ _ ih =>
    refine .identifier (hprev.trans ho) (hfits.1.congr (sameStart_written_map g ts)) ?_
    exact ih (hopens i List.mem_cons_self) hfits.2 fun j hj => hopens j (List.mem_cons_of_mem _ hj)

/-- Identifiers that can take the place of others in every text fit. -/
theorem Reading.map {g : Identifier → Identifier} {prev prev' : Option Char} {ts : List Token}
    (h : Reading prev ts) (hprev : opensAfter prev' = opensAfter prev)
    (hg : ∀ i, .identifier i ∈ ts → (g i).Replaces i) :
    Reading prev' (ts.map (Token.map g)) :=
  h.map_of_fits hprev (h.fits fun i hi => (hg i hi).standsBefore) fun i hi => (hg i hi).opens

/-! ## Substituting -/

theorem substitute_congr {f g : Identifier → Text} {ts : List Token}
    (h : ∀ i, .identifier i ∈ ts → f i = g i) : substitute f ts = substitute g ts := by
  induction ts with
  | nil => rfl
  | cons t ts ih =>
    have ih := ih fun i hi => h i (List.mem_cons_of_mem t hi)
    rw [substitute, substitute, List.flatMap_cons, List.flatMap_cons, ← substitute, ← substitute, ih]
    cases t with
    | char c => rfl
    | identifier i => exact congrArg (· ++ substitute g ts) (h i List.mem_cons_self)

theorem substitute_map (f : Identifier → Text) (g : Identifier → Identifier) (ts : List Token) :
    substitute f (ts.map (Token.map g)) = substitute (fun i => f (g i)) ts := by
  rw [substitute, substitute, List.flatMap_map]
  refine List.flatMap_congr fun t _ => ?_
  cases t with
  | char c => rfl
  | identifier i => rfl

/-- Identifiers that stand for themselves make up the text. -/
theorem substitute_text (ts : List Token) : substitute Identifier.text ts = written ts := by
  refine List.flatMap_congr fun t _ => ?_
  cases t with
  | char c => rfl
  | identifier i => rfl

/-- Replacing the identifiers of a reading gives the text with the replacements in their places. -/
theorem written_map (g : Identifier → Identifier) (ts : List Token) :
    written (ts.map (Token.map g)) = substitute (fun i => (g i).text) ts := by
  rw [← substitute_text, substitute_map]

end LiveText
