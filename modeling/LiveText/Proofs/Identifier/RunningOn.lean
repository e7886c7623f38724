import LiveText.Proofs.Identifier.Grammar
import LiveText.Proofs.Identifier.Replacing

/-!
# Texts into which a system identifier runs

A display identifier ends where its field ends. A system identifier in its place may be read on into
the text behind it, and then it is no system identifier. There are two ways: what is written becomes
the source of a display identifier, if a dot and another field follow, or it becomes a legacy
identifier, if the mark follows that closes one (`RunsOn`). Both depend on the id, and the second way
also on the field.

Nothing else can happen (`standsBefore_system_iff`), and an identifier of some form is read there in
any case (`exists_read_system`). So a system identifier `Resembles` the display identifier that it is
put in the place of.
-/

set_option autoImplicit false

namespace LiveText

open Text

namespace Identifier

/-- A text into which the system identifier of an id and a field runs, when it stands before it. -/
inductive RunsOn (id field : Text) : Text → Prop
  /-- an id without a hyphen is taken for a part of a source -/
  | display {name : Text} {c : Char} {r : Text} (hid : '-' ∉ id)
      (hname : ∀ d ∈ name, isNameChar d = true) (hc : isWord c = true) :
      RunsOn id field (name ++ '.' :: c :: r)
  /-- an id of letters is taken for a kind, the field for an id with its field -/
  | legacy {s id' field' r : Text} (hid : IsRun Char.isAlpha id) (hid' : IsRun isIdChar id')
      (hfield' : IsRun isWord field') (hs : field ++ s = id' ++ '_' :: field' ++ ['-', '='] ++ r) :
      RunsOn id field s

section
variable {id field s : Text}

/-- An id with a hyphen is neither a part of a source nor a kind. -/
theorem RunsOn.hyphen_notMem (h : RunsOn id field s) : '-' ∉ id := by
  cases h with
  | display hid _ _ => exact hid
  | legacy hid _ _ _ => exact fun hm => absurd (hid.2 '-' hm) (by decide)

theorem body_system_append (hfield : IsRun isWord field) (s : Text) :
    (system id (some field)).body ++ s = systemMark ++ id ++ '_' :: field ++ s := by
  simp [body, optionalPart_some hfield.1]

/-- A text that does not hold a character ends in front of it. -/
theorem exists_eq_append_of_notMem {t u v : Text} {c : Char} (hc : c ∉ t)
    (h : t ++ s = u ++ c :: v) : ∃ w, u = t ++ w ∧ s = w ++ c :: v := by
  rcases List.append_eq_append_iff.1 h with h | ⟨w, rfl, hv⟩
  · exact h
  · cases w with
    | nil => exact ⟨[], by simp, hv.symm⟩
    | cons d w =>
      obtain ⟨rfl, -⟩ := List.cons.inj hv
      exact absurd (List.mem_append_right u List.mem_cons_self) hc

/-- A system identifier is made of the characters of a name, and of the hyphens of its id. -/
theorem WellFormed.isNameChar_or_hyphen (h : (system id (some field)).WellFormed) {c : Char}
    (hc : c ∈ systemMark ++ id ++ '_' :: field) : isNameChar c = true ∨ c = '-' ∧ '-' ∈ id := by
  simp only [List.mem_append, List.mem_cons] at hc
  rcases hc with (hc | hc) | rfl | hc
  · have hmark : systemMark.all isNameChar = true := by decide
    exact .inl (List.all_eq_true.1 hmark c hc)
  · have hid := h.1.2 c hc
    rw [isIdChar, Bool.or_eq_true, beq_iff_eq] at hid
    rcases hid with hid | rfl
    · exact .inl (isNameChar_of_isWord (isWord_of_isAlphanum hid))
    · exact .inr ⟨rfl, hc⟩
  · exact .inl (by decide)
  · exact .inl (isNameChar_of_isWord ((h.2 field rfl).2 c hc))

/-! ## The three forms, where a system identifier stands -/

/-- Behind a word that a field begins with, a display identifier is complete. -/
theorem exists_displayForm {source r : Text} {c : Char} (hsource : IsRun isNameChar source)
    (hc : isWord c = true) : ∃ i q, DisplayForm ('@' :: source ++ '.' :: c :: r) i q := by
  obtain ⟨f, v, hf⟩ := exists_longestRun_cons hc r
  by_cases hshort : ∃ w x, ShortIdForm v w x
  · obtain ⟨w, x, hw⟩ := hshort
    exact ⟨_, x, source, f, some w, _, v, rfl, hsource, rfl, hf, .inl ⟨w, rfl, hw⟩⟩
  · exact ⟨_, v, source, f, none, _, v, rfl, hsource, rfl, hf,
      .inr ⟨rfl, rfl, fun w x hw => hshort ⟨w, x, hw⟩⟩⟩

/-- A display identifier is read if and only if a dot and a word follow, behind a part of a name. -/
theorem readDisplay_system_iff (h : (system id (some field)).WellFormed) :
    (∃ q, readDisplay ((system id (some field)).body ++ s) = some q) ↔
      '-' ∉ id ∧ ∃ name c r, s = name ++ '.' :: c :: r ∧ (∀ d ∈ name, isNameChar d = true) ∧
        isWord c = true := by
  simp only [Prod.exists, readDisplay_eq_some_iff, body_system_append (h.2 field rfl)]
  constructor
  · rintro ⟨i, r, source, f, shortId, u, v, rfl, hsource, ht, hf, -⟩
    have hdot : '.' ∉ systemMark ++ id ++ '_' :: field :=
      fun hm => absurd (h.isNameChar_or_hyphen hm) (by simp; decide)
    obtain ⟨name, rfl, rfl⟩ := exists_eq_append_of_notMem hdot (List.cons.inj ht).2
    obtain ⟨c, r, rfl, hc⟩ := cons_of_run? (run?_eq_some_iff_longestRun.2 hf)
    refine ⟨fun hm => ?_, name, c, r, rfl, fun d hd => ?_, hc⟩
    · exact absurd (hsource.2 '-' (by simp [hm])) (by decide)
    · exact hsource.2 d (List.mem_append_right _ hd)
  · rintro ⟨hhyphen, name, c, r, rfl, hname, hc⟩
    have hsource : IsRun isNameChar (systemMark ++ id ++ '_' :: field ++ name) := by
      refine ⟨by simp [systemMark], fun d hd => ?_⟩
      rcases List.mem_append.1 hd with hd | hd
      · exact (h.isNameChar_or_hyphen hd).resolve_right fun hd => hhyphen hd.2
      · exact hname d hd
    have hform := exists_displayForm (r := r) hsource hc
    simpa using hform

/-- A legacy identifier is read if and only if the id is its kind, and the mark that closes it
follows. -/
theorem readLegacy_system_iff (h : (system id (some field)).WellFormed) :
    (∃ q, readLegacy ((system id (some field)).body ++ s) = some q) ↔
      IsRun Char.isAlpha id ∧ ∃ id' field' r, IsRun isIdChar id' ∧ IsRun isWord field' ∧
        field ++ s = id' ++ '_' :: field' ++ ['-', '='] ++ r := by
  obtain ⟨hid, hfield⟩ := h
  simp only [Prod.exists, readLegacy_eq_some_iff, body_system_append (hfield field rfl)]
  constructor
  · rintro ⟨i, r, kind, id', field', rfl, hkind, hid', hfield', ht⟩
    have ht : id ++ '_' :: (field ++ s) =
        kind ++ '_' :: (id' ++ '_' :: field' ++ ['-', '='] ++ r) := by simpa using ht
    have hkind' : IsRun isIdChar kind :=
      hkind.mono fun c hc => by simp [isIdChar, isAlphanum_of_isAlpha hc]
    -- id and kind both end in front of the first underscore
    have hrun := hkind'.run?_append (r := '_' :: (id' ++ '_' :: field' ++ ['-', '='] ++ r))
      (by simp; decide)
    rw [← ht, hid.run?_append (by simp; decide)] at hrun
    simp only [Option.some.injEq, Prod.mk.injEq, List.cons.injEq, true_and] at hrun
    obtain ⟨rfl, hs⟩ := hrun
    exact ⟨hkind, id', field', r, hid', hfield', hs⟩
  · rintro ⟨hkind, id', field', r, hid', hfield', hs⟩
    refine ⟨_, r, id, id', field', rfl, hkind, hid', hfield', ?_⟩
    have ht : '@' :: (systemMark ++ id ++ '_' :: field ++ s) =
        '@' :: systemMark ++ id ++ '_' :: (field ++ s) := by simp
    rw [ht, hs]
    simp

/-- The system identifier itself is read, as far as no word goes on behind it. -/
theorem readSystem_system (h : (system id (some field)).WellFormed)
    (hs : ∀ c ∈ s.head?, isWord c = false) :
    readSystem ((system id (some field)).body ++ s) = some (system id (some field), s) := by
  obtain ⟨hid, hfield⟩ := h
  have hfield := hfield field rfl
  have h1 := hid.run?_append (r := '_' :: (field ++ s)) (by simp; decide)
  have h2 := hfield.run?_append hs
  simp [body_system_append hfield, readSystem, systemMark, literal?, h1, h2]

/-! ## Which one is read -/

theorem runsOn_iff (h : (system id (some field)).WellFormed) :
    RunsOn id field s ↔ (∃ q, readLegacy ((system id (some field)).body ++ s) = some q) ∨
      ∃ q, readDisplay ((system id (some field)).body ++ s) = some q := by
  rw [readLegacy_system_iff h, readDisplay_system_iff h]
  constructor
  · rintro (⟨hid, hname, hc⟩ | ⟨hid, hid', hfield', hs⟩)
    · exact .inr ⟨hid, _, _, _, rfl, hname, hc⟩
    · exact .inl ⟨hid, _, _, _, hid', hfield', hs⟩
  · rintro (⟨hid, id', field', r, hid', hfield', hs⟩ | ⟨hid, name, c, r, rfl, hname, hc⟩)
    · exact .legacy hid hid' hfield' hs
    · exact .display hid hname hc

/-- **A system identifier stands before every text into which it does not run.** -/
theorem standsBefore_system_iff (h : (system id (some field)).WellFormed)
    (hs : ∀ c ∈ s.head?, isWord c = false) :
    StandsBefore (system id (some field)) s ↔ ¬RunsOn id field s := by
  rw [StandsBefore, text, List.cons_append, read_at, readSystem_system h hs, runsOn_iff h, not_or]
  constructor
  · intro hread
    rw [Option.or_eq_some_iff, Option.or_eq_some_iff] at hread
    rcases hread with hlegacy | ⟨hlegacy, hdisplay | ⟨hdisplay, -⟩⟩
    · obtain ⟨_, _, _, he⟩ := legacy_of_readLegacy hlegacy
      cases he
    · cases isDisplay_of_readDisplay hdisplay
    · rw [hlegacy, hdisplay]
      exact ⟨by simp, by simp⟩
  · rintro ⟨hlegacy, hdisplay⟩
    rw [Option.eq_none_iff_forall_ne_some.2 fun q hq => hlegacy ⟨q, hq⟩,
      Option.eq_none_iff_forall_ne_some.2 fun q hq => hdisplay ⟨q, hq⟩]
    rfl

/-- Where a system identifier is written, some identifier is read. -/
theorem exists_read_system (h : (system id (some field)).WellFormed)
    (hs : ∀ c ∈ s.head?, isWord c = false) :
    ∃ q, read ((system id (some field)).text ++ s) = some q := by
  rw [text, List.cons_append, read_at, readSystem_system h hs]
  cases readLegacy ((system id (some field)).body ++ s) with
  | some q => exact ⟨q, rfl⟩
  | none =>
    cases readDisplay ((system id (some field)).body ++ s) with
    | some q => exact ⟨q, rfl⟩
    | none => exact ⟨_, rfl⟩

end

/-! ## In the place of a display identifier -/

section
variable {source field : Text} {shortId : Option Text}

/-- No word goes on behind an identifier that no mark closes. -/
theorem not_isWord_of_standsBefore {i : Identifier} (hi : i.isLegacy = false) {s : Text}
    (h : StandsBefore i s) : ∀ c ∈ s.head?, isWord c = false := by
  rcases read_eq_some_iff.1 h with ⟨_, _, _, rfl, -⟩ | ⟨-, h | ⟨-, h⟩⟩
  · cases hi
  · obtain ⟨_, _, _, _, v, -, -, -, hfield, h⟩ := h
    rcases h with ⟨w, -, _, -, hshort, -, -, hlow⟩ | ⟨-, rfl, -⟩
    · intro c hc
      rw [isWord, hshort.ends c hc, Bool.false_or, beq_eq_false_iff_ne]
      rintro rfl
      exact hlow hc
    · exact hfield.ends
  · obtain ⟨_, _, _, -, -, -, hbehind, -⟩ := h
    cases hbehind with
    | field hfield => exact hfield.ends
    | bare hbare => exact hbare

/-- What a display identifier is read before does not depend on the name of its source. -/
theorem standsBefore_renamed {name s : Text} (hname : IsRun isNameChar name)
    (h : StandsBefore (display source field shortId) s) :
    StandsBefore (display name field shortId) s := by
  rcases read_eq_some_iff.1 h with ⟨_, _, _, he, -⟩ | ⟨-, h | ⟨-, _, _, _, he, -⟩⟩
  · cases he
  · obtain ⟨_, _, _, u, v, he, -, ht, hfield, hshort⟩ := h
    cases he
    have hu : field ++ optionalPart '#' shortId ++ s = u := by
      simpa [text, body] using ht
    have hread : readDisplay (name ++ '.' :: u) = some (display name field shortId, s) :=
      readDisplay_eq_some_iff.2 ⟨name, field, shortId, u, v, rfl, hname, by simp, hfield, hshort⟩
    have htext : (display name field shortId).text ++ s = '@' :: (name ++ '.' :: u) := by
      simp [text, body, ← hu]
    rw [StandsBefore, htext, read_of_readDisplay hread]
  · cases he

/-- Nothing opens behind a display identifier. -/
theorem not_opensAfter_display (h : (display source field shortId).WellFormed) :
    opensAfter (display source field shortId).lastChar = false := by
  obtain ⟨-, hfield, hshort⟩ := h
  cases shortId with
  | none =>
    have htext : (display source field none).text = '@' :: (source ++ ['.']) ++ field := by
      simp [text, body, optionalPart]
    exact not_opensAfter_of_isRun htext hfield
  | some w =>
    have hw := (hshort w rfl).1
    have htext : (display source field (some w)).text =
        '@' :: (source ++ '.' :: (field ++ ['#'])) ++ w := by
      simp [text, body, optionalPart_some hw.1]
    exact not_opensAfter_of_isRun htext (hw.mono fun c hc => isWord_of_isAlphanum hc)

/-- A system identifier resembles every display identifier with its field. -/
theorem resembles_system {id : Text} (hid : IsRun isIdChar id)
    (h : (display source field shortId).WellFormed) :
    (system id (some field)).Resembles (display source field shortId) := by
  have hfield : IsRun isWord field := h.2.1
  have hwell : (system id (some field)).WellFormed := by
    refine ⟨hid, ?_⟩
    rintro f ⟨⟩
    exact hfield
  refine ⟨?_, rfl, fun s hs => exists_read_system hwell (not_isWord_of_standsBefore rfl hs)⟩
  have htext : (system id (some field)).text = '@' :: (systemMark ++ (id ++ ['_'])) ++ field := by
    simp [text, body, optionalPart_some hfield.1]
  rw [not_opensAfter_display h, not_opensAfter_of_isRun htext hfield]

end
end Identifier
end LiveText
