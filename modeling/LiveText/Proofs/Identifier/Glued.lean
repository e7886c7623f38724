import Mathlib.Data.List.Destutter
import LiveText.Proofs.Identifier.Copies
import LiveText.Proofs.Identifier.Gaps
import LiveText.Proofs.Identifier.Passes
import LiveText.Proofs.Identifier.Replacing

/-!
# Identifiers written back to back

A text may consist of identifiers without anything between them. Taken apart as it is, it holds only
one of them in most cases, since none starts behind a word character. Separating it opens the next one
each time a space is put in, so in the end all of them are found (`separate_glued`), and the text says
which identifiers it was made of (`glued_inj`).

Collapsing puts nothing in. It sees the first identifier and drops the repeats of it, and then the word
character that the identifier ends in hides all the others (`collapseAfter_glued_of_not_opens`). So a
run of repeats is reduced at the beginning of the text and nowhere else.

## What is here

* `glued`: identifiers as one text.
* **`passes_separate_glued`**: what separating does to glued identifiers, and to any text.
* **`collapse_glued_iff`**: what collapsing does to glued display identifiers.
-/

set_option autoImplicit false

namespace LiveText

open Text Identifier

/-- Identifiers written one behind the other, without a gap. -/
def glued (is : List Identifier) : Text := is.flatMap Identifier.text

@[simp] theorem glued_nil : glued [] = [] := rfl

@[simp] theorem glued_cons (i : Identifier) (is : List Identifier) :
    glued (i :: is) = i.text ++ glued is := rfl

theorem stops_glued (is : List Identifier) : Stops (glued is) := by
  cases is with
  | nil => exact stops_nil
  | cons i is => exact i.stops_text_append (glued is)

theorem startsBare_glued {i : Identifier} (hi : i.WellFormed) (is : List Identifier) :
    startsBare (glued (i :: is)) = true :=
  startsBare_of_read (standsBefore_of_stops hi (stops_glued is))

/-! ## Separating -/

section
variable {is : List Identifier} (h : ∀ i ∈ is, i.WellFormed ∧ i.isLegacy = false)
include h

theorem separateAfter_glued {prev : Option Char} (ho : opensAfter prev = true) :
    separateAfter prev (glued is) = joinWords (is.map Identifier.text) ∧
      identifiersOf (tokensAfter prev (separateAfter prev (glued is))) = is := by
  induction is generalizing prev with
  | nil =>
    rw [glued_nil, separateAfter_nil, tokensAfter_nil]
    exact ⟨rfl, rfl⟩
  | cons i is ih =>
    obtain ⟨⟨hi, hlegacy⟩, h⟩ := List.forall_mem_cons.1 h
    have hstands : StandsBefore i (glued is) := standsBefore_of_stops hi (stops_glued is)
    cases is with
    | nil =>
      have hgap : i.needsGap [] = false := by simp [needsGap, startsBare]
      rw [glued_cons, tokensAfter_separateAfter_noGap ho hstands hgap,
        separateAfter_noGap ho hstands hgap, glued_nil, separateAfter_nil, tokensAfter_nil,
        List.append_nil]
      exact ⟨(joinWords_singleton i.text).symm, rfl⟩
    | cons j is =>
      have hgap : i.needsGap (glued (j :: is)) = true := by
        rw [needsGap, hlegacy, startsBare_glued (h j List.mem_cons_self).1 is]
        rfl
      obtain ⟨hspaced, htokens⟩ := @ih h (some ' ') rfl
      rw [glued_cons, tokensAfter_separateAfter_gap ho hstands hgap,
        separateAfter_gap ho hstands hgap, identifiersOf_identifier, identifiersOf_char, htokens,
        hspaced]
      exact ⟨(joinWords_cons (List.cons_ne_nil j.text _) i.text).symm, rfl⟩

/-- **Glued identifiers are all found**, with a space between each and the next. -/
theorem separate_glued :
    separate (glued is) = joinWords (is.map Identifier.text) ∧ identifiers (glued is) = is := by
  rw [identifiers_eq]
  exact separateAfter_glued h rfl

end

theorem glued_inj {is js : List Identifier}
    (hi : ∀ i ∈ is, i.WellFormed ∧ i.isLegacy = false)
    (hj : ∀ j ∈ js, j.WellFormed ∧ j.isLegacy = false) : glued is = glued js ↔ is = js := by
  refine ⟨fun h => ?_, congrArg glued⟩
  rw [← (separate_glued hi).2, h, (separate_glued hj).2]

/-- **Separating is complete.** Glued identifiers are separated one and all, and found again. On any
text the passes come to an end, with a text that separating leaves as it is and that is the text itself
with spaces in front of at signs. -/
theorem passes_separate_glued :
    (∀ is : List Identifier, (∀ i ∈ is, i.WellFormed ∧ i.isLegacy = false) →
        separate (glued is) = joinWords (is.map Identifier.text) ∧ identifiers (glued is) = is) ∧
      ∀ t : Text,
        (∃ n, (∀ m < n, pass^[m + 1] t ≠ pass^[m] t) ∧ pass^[n + 1] t = pass^[n] t ∧
            pass^[n] t = separate t) ∧
          separate (separate t) = separate t ∧ ∃! ps, Spaced t (separate t) ps := by
  refine ⟨fun is h => separate_glued h, fun t => ⟨?_, separate_separate t, existsUnique_spaced t⟩⟩
  obtain ⟨n, hn, hchange, -⟩ := exists_iterate_pass t
  refine ⟨n, hchange, ?_, hn⟩
  rw [Function.iterate_succ_apply', hn]
  exact pass_eq_self_iff_separate.2 (separate_separate t)

/-- Three identifiers of which only the second one leaves the next one open. -/
theorem passes_separate_glued_hyphen :
    let is : List Identifier := [.display "a".toList "b".toList none, .system "x-".toList none,
      .display "c".toList "d".toList (some "c0ff".toList)]
    glued is = "@a.b@gv_x-@c.d#c0ff".toList ∧
      separate (glued is) = "@a.b @gv_x- @c.d#c0ff".toList ∧ identifiers (glued is) = is := by
  intro is
  obtain ⟨hseparate, hidentifiers⟩ := passes_separate_glued.1 is (by decide)
  exact ⟨rfl, hseparate, hidentifiers⟩

/-! ## Collapsing -/

/-- Where a display identifier stands, it is read before the other forms are tried. -/
theorem Identifier.readDisplay_of_standsBefore {i : Identifier} {s : Text}
    (hi : i.isDisplay = true) (h : StandsBefore i s) : readDisplay (i.body ++ s) = some (i, s) := by
  rcases read_eq_some_iff.1 h with ⟨_, _, _, rfl, -⟩ | ⟨-, h | ⟨-, _, _, _, rfl, -⟩⟩
  · cases hi
  · exact readDisplay_eq_some_iff.2 h
  · cases hi

theorem Identifier.isLegacy_of_isDisplay {i : Identifier} (h : i.isDisplay = true) :
    i.isLegacy = false := by
  cases i with
  | display source field shortId => rfl
  | system id field => rfl
  | legacy kind id field => cases h

theorem Identifier.not_opensAfter_of_isDisplay {i : Identifier} (h : i.WellFormed)
    (hi : i.isDisplay = true) : opensAfter i.lastChar = false := by
  cases i with
  | display source field shortId => exact not_opensAfter_display h
  | system id field => cases hi
  | legacy kind id field => cases hi

/-- Of glued identifiers the repeats of one of them are dropped that stand at the beginning. -/
theorem drop_droppable_glued {i : Identifier} (hi : i.WellFormed) (hdisplay : i.isDisplay = true)
    {is : List Identifier} (h : ∀ j ∈ is, j.WellFormed) :
    (glued is).drop (droppable i.text (glued is) * i.text.length) =
      glued (is.dropWhile (· = i)) := by
  induction is with
  | nil => exact List.drop_nil
  | cons j is ih =>
    obtain ⟨hj, h⟩ := List.forall_mem_cons.1 h
    by_cases hji : j = i
    · subst hji
      rw [glued_cons, droppable_append j.text_ne_nil (runsOn_of_stops (stops_glued is)),
        Nat.succ_mul, Nat.add_comm, List.drop_length_add_append, ih h,
        List.dropWhile_cons_of_pos (by simp)]
    · rw [glued_cons, droppable_text_append hi hdisplay hj hji (stops_glued is), Nat.zero_mul,
        List.drop_zero, List.dropWhile_cons_of_neg (by simpa using hji), glued_cons]

/-- Behind a word character glued display identifiers hide each other. -/
theorem collapseAfter_glued_of_not_opens {prev : Option Char} (ho : opensAfter prev = false)
    {is : List Identifier} (h : ∀ i ∈ is, i.WellFormed ∧ i.isDisplay = true) :
    collapseAfter prev (glued is) = glued is := by
  induction is generalizing prev with
  | nil => rw [glued_nil, collapseAfter]
  | cons i is ih =>
    obtain ⟨⟨hi, hdisplay⟩, h⟩ := List.forall_mem_cons.1 h
    have hrest := ih (not_opensAfter_of_isDisplay hi hdisplay) h
    have hclosed : ¬opensAfter prev = true := by simp [ho]
    rw [glued_cons, Identifier.text, List.cons_append, collapseAfter_none fun h => absurd h hclosed,
      collapseAfter_append_of_no_at hi.at_not_mem_body, getLast?_body_or, hrest]

theorem collapse_glued {i : Identifier} {is : List Identifier}
    (h : ∀ j ∈ i :: is, j.WellFormed ∧ j.isDisplay = true) :
    collapse (glued (i :: is)) = glued (i :: is.dropWhile (· = i)) := by
  obtain ⟨⟨hi, hdisplay⟩, his⟩ := List.forall_mem_cons.1 h
  cases is with
  | nil =>
    have hseparate := (separate_glued fun j hj => ⟨(h j hj).1, isLegacy_of_isDisplay (h j hj).2⟩).1
    rw [List.map_cons, List.map_nil, joinWords_singleton] at hseparate
    rw [List.dropWhile_nil]
    refine collapse_of_separate (hseparate.trans ?_)
    rw [glued_cons, glued_nil, List.append_nil]
  | cons j js =>
    have hread := readDisplay_of_standsBefore hdisplay
      (standsBefore_of_stops hi (stops_glued (j :: js)))
    have hglued : readGlued (glued (i :: j :: js)) = some (i.text, glued (j :: js)) := by
      rw [glued_cons, Identifier.text, List.cons_append, readGlued_at, hread]
      rfl
    rw [collapse, collapseAfter_glued rfl hglued,
      drop_droppable_glued hi hdisplay fun k hk => (his k hk).1]
    rw [← lastChar, collapseAfter_glued_of_not_opens (not_opensAfter_of_isDisplay hi hdisplay)]
    · rfl
    · exact fun k hk => his k ((List.dropWhile_sublist _).subset hk)

/-- Dropping repeats of the first element leaves nothing else to be dropped there. -/
theorem destutter_cons_dropWhile (i : Identifier) (is : List Identifier) :
    (i :: is.dropWhile (· = i)).destutter (· ≠ ·) = (i :: is).destutter (· ≠ ·) := by
  induction is with
  | nil => rfl
  | cons j is ih =>
    by_cases hji : j = i
    · subst hji
      rw [List.dropWhile_cons_of_pos (by simp), ih, List.destutter_cons', List.destutter_cons',
        List.destutter'_cons_neg _ (by simp)]
    · rw [List.dropWhile_cons_of_neg (by simpa using hji)]

theorem isChain_cons_dropWhile_iff {i : Identifier} {is : List Identifier} :
    (i :: is.dropWhile (· = i)).IsChain (· ≠ ·) ↔ (is.dropWhile (· = i)).IsChain (· ≠ ·) := by
  rw [List.isChain_cons]
  refine and_iff_right fun j hj => ?_
  have hnot := List.head?_dropWhile_not (· = i) is
  rw [Option.mem_def.1 hj] at hnot
  simpa using Ne.symm (of_decide_eq_false hnot)

/-- **Collapsing reduces repeats at the beginning of glued display identifiers**, and only there. So
every run of one identifier is reduced to one occurrence if and only if no other identifier is repeated
than the first one, right at the beginning. -/
theorem collapse_glued_iff {i : Identifier} {is : List Identifier}
    (h : ∀ j ∈ i :: is, j.WellFormed ∧ j.isDisplay = true) :
    collapse (glued (i :: is)) = glued (i :: is.dropWhile (· = i)) ∧
      (collapse (glued (i :: is)) = glued ((i :: is).destutter (· ≠ ·)) ↔
        (is.dropWhile (· = i)).IsChain (· ≠ ·)) := by
  have hcollapse := collapse_glued h
  have hlegacy : ∀ j ∈ i :: is, j.WellFormed ∧ j.isLegacy = false :=
    fun j hj => ⟨(h j hj).1, isLegacy_of_isDisplay (h j hj).2⟩
  have hdrop : (i :: is.dropWhile (· = i)).Sublist (i :: is) :=
    (List.dropWhile_sublist _).cons_cons i
  refine ⟨hcollapse, ?_⟩
  calc collapse (glued (i :: is)) = glued ((i :: is).destutter (· ≠ ·))
    _ ↔ i :: is.dropWhile (· = i) = (i :: is).destutter (· ≠ ·) := by
      rw [hcollapse]
      exact glued_inj (fun j hj => hlegacy j (hdrop.subset hj))
        fun j hj => hlegacy j ((List.destutter_sublist _ _).subset hj)
    _ ↔ (i :: is.dropWhile (· = i)).IsChain (· ≠ ·) := by
      rw [← destutter_cons_dropWhile, eq_comm, List.destutter_eq_self_iff]
    _ ↔ (is.dropWhile (· = i)).IsChain (· ≠ ·) := isChain_cons_dropWhile_iff

/-- A repeat that does not stand at the beginning is kept. -/
theorem collapse_glued_iff_later :
    let i : Identifier := .display "a".toList "b".toList none
    let j : Identifier := .display "c".toList "d".toList none
    collapse "@a.b@c.d@c.d".toList = "@a.b@c.d@c.d".toList ∧
      collapse (glued [i, j, j]) ≠ glued ([i, j, j].destutter (· ≠ ·)) := by
  intro i j
  have hdisplay : ∀ k ∈ [i, j, j], k.WellFormed ∧ k.isDisplay = true := by decide
  obtain ⟨hcollapse, hchain⟩ := collapse_glued_iff hdisplay
  exact ⟨hcollapse, fun h => absurd (hchain.1 h) (by decide)⟩

end LiveText
