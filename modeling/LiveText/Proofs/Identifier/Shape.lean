import LiveText.Proofs.Identifier.Boundary

/-!
# The parts of an identifier

What is read from a text has parts of the right shape (`wellFormed_of_read`): each of them is a
word of its own class of characters. The other way round, a well-formed identifier is read back
where nothing behind it can be taken for a part of it (`standsBefore_display`,
`standsBefore_legacy`), so its text alone says which identifier it is (`parse?_text`).
-/

set_option autoImplicit false

namespace LiveText

open Text

namespace Identifier

/-- The parts of the identifier are words of their classes. -/
def WellFormed : Identifier → Prop
  | display source field shortId =>
    IsRun isNameChar source ∧ IsRun isWord field ∧
      ∀ h ∈ shortId, IsRun Char.isAlphanum h ∧ 4 ≤ h.length ∧ h.length ≤ 6
  | system id field => IsRun isIdChar id ∧ ∀ f ∈ field, IsRun isWord f
  | legacy kind id field => IsRun Char.isAlpha kind ∧ IsRun isIdChar id ∧ IsRun isWord field

instance : (i : Identifier) → Decidable i.WellFormed
  | display source field shortId =>
    inferInstanceAs (Decidable (IsRun isNameChar source ∧ IsRun isWord field ∧
      ∀ h ∈ shortId, IsRun Char.isAlphanum h ∧ 4 ≤ h.length ∧ h.length ≤ 6))
  | system id field =>
    inferInstanceAs (Decidable (IsRun isIdChar id ∧ ∀ f ∈ field, IsRun isWord f))
  | legacy kind id field =>
    inferInstanceAs (Decidable (IsRun Char.isAlpha kind ∧ IsRun isIdChar id ∧ IsRun isWord field))

/-! ## What is read is well-formed -/

theorem wellFormed_of_readLegacy {t r : Text} {i : Identifier} (h : readLegacy t = some (i, r)) :
    i.WellFormed := by
  simp only [readLegacy, Option.bind_eq_bind, Option.bind_eq_some_iff, Option.pure_def,
    Option.some.injEq, Prod.mk.injEq, Prod.exists] at h
  obtain ⟨_, -, kind, _, hkind, _, -, id, _, hid, _, -, field, _, hfield, _, -, rfl, -⟩ := h
  exact ⟨isRun_of_run? hkind, isRun_of_run? hid, isRun_of_run? hfield⟩

theorem wellFormed_of_readDisplay {t r : Text} {i : Identifier}
    (h : readDisplay t = some (i, r)) : i.WellFormed := by
  simp only [readDisplay, Option.bind_eq_bind, Option.bind_eq_some_iff, Option.pure_def,
    Prod.exists] at h
  obtain ⟨source, _, hsource, _, -, field, _, hfield, h⟩ := h
  split at h
  · next w v hw =>
    simp only [Option.some.injEq, Prod.mk.injEq] at h
    obtain ⟨rfl, -⟩ := h
    refine ⟨isRun_of_run? hsource, isRun_of_run? hfield, ?_⟩
    rintro w' ⟨⟩
    simp only [readShortId, Option.bind_eq_bind, Option.bind_eq_some_iff, Prod.exists] at hw
    obtain ⟨_, -, h', _, hrun, hw⟩ := hw
    split at hw
    · next hlen =>
      simp only [Option.some.injEq, Prod.mk.injEq] at hw
      obtain ⟨rfl, -⟩ := hw
      exact ⟨isRun_of_run? hrun, hlen.1, hlen.2.1⟩
    · exact absurd hw (by simp)
  · simp only [Option.some.injEq, Prod.mk.injEq] at h
    obtain ⟨rfl, -⟩ := h
    exact ⟨isRun_of_run? hsource, isRun_of_run? hfield, by simp⟩

/-- Cutting an id back leaves an id. -/
theorem isRun_of_cutBack {id front back : Text} (hid : IsRun isIdChar id)
    (h : cutBack id = some (front, back)) : IsRun isIdChar front := by
  have happ := cutBack_append h
  refine ⟨?_, fun c hc => hid.2 c (happ ▸ List.mem_append_left _ hc)⟩
  rw [cutBack] at h
  split at h
  · obtain ⟨rfl, -⟩ := Prod.mk.inj (Option.some.inj h)
    simp
  · exact absurd h (by simp)

theorem wellFormed_of_readSystem {t r : Text} {i : Identifier} (h : readSystem t = some (i, r)) :
    i.WellFormed := by
  simp only [readSystem, Option.bind_eq_bind, Option.bind_eq_some_iff, Option.pure_def,
    Prod.exists] at h
  obtain ⟨_, -, id, _, hrun, h⟩ := h
  have hid : IsRun isIdChar id := isRun_of_run? hrun
  clear hrun
  split at h
  · split at h
    · next hfield =>
      simp only [Option.some.injEq, Prod.mk.injEq] at h
      obtain ⟨rfl, -⟩ := h
      refine ⟨hid, ?_⟩
      rintro f ⟨⟩
      exact isRun_of_run? hfield
    · simp only [Option.bind_eq_some_iff, Option.some.injEq, Prod.mk.injEq, Prod.exists] at h
      obtain ⟨front, back, hc, rfl, -⟩ := h
      exact ⟨isRun_of_cutBack hid hc, by simp⟩
  · simp only [Option.some.injEq, Prod.mk.injEq] at h
    obtain ⟨rfl, -⟩ := h
    exact ⟨hid, by simp⟩

/-- **What is read is well-formed.** -/
theorem wellFormed_of_read {t r : Text} {i : Identifier} (h : read t = some (i, r)) :
    i.WellFormed := by
  cases t with
  | nil => exact absurd h (by simp [read])
  | cons c t =>
    by_cases hc : c = '@'
    · subst hc
      rw [read_at, Option.or_eq_some_iff, Option.or_eq_some_iff] at h
      rcases h with h | ⟨-, h | ⟨-, h⟩⟩
      · exact wellFormed_of_readLegacy h
      · exact wellFormed_of_readDisplay h
      · exact wellFormed_of_readSystem h
    · rw [read_of_ne_at hc] at h
      exact absurd h (by simp)

/-- An optional part is made of its mark and its text. -/
theorem mem_optionalPart {mark c : Char} {o : Option Text} (h : c ∈ optionalPart mark o) :
    c = mark ∨ ∃ t ∈ o, c ∈ t := by
  cases o with
  | none => simp [optionalPart] at h
  | some t =>
    cases t with
    | nil => simp [optionalPart] at h
    | cons d t =>
      rw [optionalPart_some (List.cons_ne_nil d t)] at h
      rcases List.mem_cons.1 h with rfl | h
      · exact .inl rfl
      · exact .inr ⟨d :: t, rfl, h⟩

/-- Behind its at sign an identifier holds no stop. -/
theorem WellFormed.not_isStop {i : Identifier} (h : i.WellFormed) :
    ∀ c ∈ i.body, isStop c = false := by
  have name : ∀ c, isNameChar c = true → isStop c = false := fun c hc => by simp [isStop, hc]
  have word : ∀ c, isWord c = true → isStop c = false := fun c hc => name c (isNameChar_of_isWord hc)
  have alnum : ∀ c : Char, c.isAlphanum = true → isStop c = false :=
    fun c hc => word c (isWord_of_isAlphanum hc)
  have id : ∀ c, isIdChar c = true → isStop c = false := by
    intro c hc
    rw [isIdChar, Bool.or_eq_true, beq_iff_eq] at hc
    rcases hc with hc | rfl
    · exact alnum c hc
    · decide
  have mark : ∀ c ∈ systemMark, isStop c = false := by
    have hall : systemMark.all (!isStop ·) = true := by decide
    exact fun c hc => by simpa using List.all_eq_true.1 hall c hc
  have optional : ∀ {m : Char} {o : Option Text}, isStop m = false →
      (∀ t ∈ o, ∀ c ∈ t, isStop c = false) → ∀ c ∈ optionalPart m o, isStop c = false := by
    intro m o hm ho c hc
    rcases mem_optionalPart hc with rfl | ⟨t, ht, hc⟩
    · exact hm
    · exact ho t ht c hc
  cases i with
  | display source field shortId =>
    obtain ⟨hsource, hfield, hshort⟩ := h
    have hopt := optional (m := '#') (by decide) fun t ht c hc => alnum c ((hshort t ht).1.2 c hc)
    simp only [body, List.mem_append, List.mem_cons]
    rintro c (hc | rfl | hc | hc)
    · exact name c (hsource.2 c hc)
    · decide
    · exact word c (hfield.2 c hc)
    · exact hopt c hc
  | system i field =>
    obtain ⟨hid, hfield⟩ := h
    have hopt := optional (m := '_') (by decide) fun t ht c hc => word c ((hfield t ht).2 c hc)
    simp only [body, List.mem_append]
    rintro c (hc | hc | hc)
    · exact mark c hc
    · exact id c (hid.2 c hc)
    · exact hopt c hc
  | legacy kind i field =>
    obtain ⟨hkind, hid, hfield⟩ := h
    simp only [body, List.mem_append, List.mem_cons, List.not_mem_nil, or_false]
    rintro c (hc | hc | rfl | hc | rfl | hc | rfl | rfl)
    · exact mark c hc
    · exact alnum c (isAlphanum_of_isAlpha (hkind.2 c hc))
    · decide
    · exact id c (hid.2 c hc)
    · decide
    · exact word c (hfield.2 c hc)
    · decide
    · decide

/-- The only at sign of an identifier is its first character. -/
theorem WellFormed.at_not_mem_body {i : Identifier} (h : i.WellFormed) : '@' ∉ i.body :=
  fun hm => absurd (h.not_isStop '@' hm) (by decide)

/-- The last character of an identifier, seen from behind its at sign. -/
theorem getLast?_body_or (i : Identifier) : i.body.getLast?.or (some '@') = i.lastChar := by
  rw [← getLast?_cons_or '@' i.body none, Option.or_none, lastChar, text]

/-- Nothing opens behind an identifier that ends in a word. -/
theorem not_opensAfter_of_isRun {i : Identifier} {t w : Text} (h : i.text = t ++ w)
    (hw : IsRun isWord w) : opensAfter i.lastChar = false := by
  cases hlast : w.getLast? with
  | none => exact absurd (List.getLast?_eq_none_iff.1 hlast) hw.1
  | some c =>
    rw [lastChar, h, List.getLast?_append, hlast, Option.some_or, opensAfter,
      hw.2 c (List.mem_of_getLast? hlast)]
    rfl

/-- An identifier holds no blanks. -/
theorem WellFormed.not_isBlank {i : Identifier} (h : i.WellFormed) :
    ∀ c ∈ i.text, isBlank c = false := by
  intro c hc
  rw [text, List.mem_cons] at hc
  rcases hc with rfl | hc
  · decide
  · rw [Bool.eq_false_iff]
    intro hb
    exact ne_of_class (isStop_of_isBlank hb) (h.not_isStop c hc) rfl

/-- No blanks stand around an identifier. -/
theorem WellFormed.trim_text {i : Identifier} (h : i.WellFormed) : trim i.text = i.text :=
  trim_of_not_isBlank h.not_isBlank

/-! ## The forms exclude each other

Behind the longest name that it begins with, a legacy identifier has a hyphen and a display
identifier has a dot. -/

theorem dropWhile_name_hyphen {t : Text} (ht : ∀ c ∈ t, isNameChar c = true ∨ c = '-')
    (r : Text) : ∃ s, (t ++ '-' :: r).dropWhile isNameChar = '-' :: s := by
  induction t with
  | nil => exact ⟨r, by simp [show isNameChar '-' = false from by decide]⟩
  | cons c t ih =>
    rcases ht c List.mem_cons_self with hc | rfl
    · obtain ⟨s, hs⟩ := ih fun d hd => ht d (List.mem_cons_of_mem c hd)
      exact ⟨s, by simpa [hc] using hs⟩
    · exact ⟨t ++ '-' :: r, by simp [show isNameChar '-' = false from by decide]⟩

theorem legacy_of_readLegacy {t r : Text} {i : Identifier} (h : readLegacy t = some (i, r)) :
    ∃ kind id field, i = legacy kind id field := by
  simp only [readLegacy, Option.bind_eq_bind, Option.bind_eq_some_iff, Option.pure_def,
    Option.some.injEq, Prod.mk.injEq, Prod.exists] at h
  obtain ⟨_, -, kind, _, -, _, -, id, _, -, _, -, field, _, -, _, -, rfl, -⟩ := h
  exact ⟨kind, id, field, rfl⟩

theorem hyphen_of_readLegacy {t : Text} {q : Identifier × Text} (h : readLegacy t = some q) :
    ∃ s, t.dropWhile isNameChar = '-' :: s := by
  obtain ⟨i, r⟩ := q
  have ht := readLegacy_append h
  obtain ⟨kind, id, field, rfl⟩ := legacy_of_readLegacy h
  obtain ⟨hkind, hid, hfield⟩ := wellFormed_of_readLegacy h
  have split : t = (systemMark ++ (kind ++ '_' :: (id ++ '_' :: field))) ++ '-' :: ('=' :: r) := by
    rw [ht, body]
    simp
  rw [split]
  refine dropWhile_name_hyphen (fun c hc => ?_) _
  have word : ∀ {c : Char}, isWord c = true → isNameChar c = true ∨ c = '-' :=
    fun h => .inl (isNameChar_of_isWord h)
  simp only [List.mem_append, List.mem_cons] at hc
  rcases hc with hc | hc | rfl | hc | rfl | hc
  · refine .inl ?_
    have : systemMark.all isNameChar = true := by decide
    exact List.all_eq_true.1 this c hc
  · exact word (isWord_of_isAlphanum (isAlphanum_of_isAlpha (hkind.2 c hc)))
  · exact word (by decide)
  · have := hid.2 c hc
    rw [isIdChar, Bool.or_eq_true, beq_iff_eq] at this
    exact this.imp_left fun h => isNameChar_of_isWord (isWord_of_isAlphanum h)
  · exact word (by decide)
  · exact word (hfield.2 c hc)

theorem dot_of_readDisplay {t : Text} {q : Identifier × Text} (h : readDisplay t = some q) :
    ∃ s, t.dropWhile isNameChar = '.' :: s := by
  obtain ⟨i, r⟩ := q
  simp only [readDisplay, Option.bind_eq_bind, Option.bind_eq_some_iff, Prod.exists] at h
  obtain ⟨source, u, hsource, v, hv, -⟩ := h
  obtain ⟨-, -, hdrop⟩ := run?_eq_some_iff.1 hsource
  exact ⟨v, hdrop.trans (literal?_append hv)⟩

/-- What is read as a legacy identifier is not read as a display identifier. -/
theorem readDisplay_of_readLegacy {t : Text} {q : Identifier × Text}
    (h : readLegacy t = some q) : readDisplay t = none := by
  rw [Option.eq_none_iff_forall_ne_some]
  intro q' h'
  obtain ⟨s, hs⟩ := hyphen_of_readLegacy h
  obtain ⟨s', hs'⟩ := dot_of_readDisplay h'
  rw [hs] at hs'
  exact absurd (List.cons.inj hs').1 (by decide)

/-- A display identifier goes before the other forms. -/
theorem read_of_readDisplay {t : Text} {q : Identifier × Text} (h : readDisplay t = some q) :
    read ('@' :: t) = some q := by
  have hlegacy : readLegacy t = none := by
    rw [Option.eq_none_iff_forall_ne_some]
    intro p hp
    rw [readDisplay_of_readLegacy hp] at h
    cases h
  rw [read_at, hlegacy, h]
  rfl

theorem isDisplay_of_readDisplay {t r : Text} {i : Identifier} (h : readDisplay t = some (i, r)) :
    i.isDisplay = true := by
  simp only [readDisplay, Option.bind_eq_bind, Option.bind_eq_some_iff, Option.pure_def,
    Prod.exists] at h
  obtain ⟨source, _, -, _, -, field, _, -, h⟩ := h
  split at h
  · cases h
    rfl
  · cases h
    rfl

/-! ## Well-formed identifiers are read back -/

/-- A display identifier with a short id is read back where no word goes on behind it. -/
theorem standsBefore_display {source field shortId s : Text}
    (h : (display source field (some shortId)).WellFormed)
    (hs : ∀ c ∈ s.head?, isWord c = false) :
    StandsBefore (display source field (some shortId)) s := by
  obtain ⟨hsource, hfield, hshort⟩ := h
  obtain ⟨hshort, hmin, hmax⟩ := hshort shortId rfl
  have hs' : ∀ c ∈ s.head?, c.isAlphanum = false := by
    intro c hc
    have := hs c hc
    rw [isWord, Bool.or_eq_false_iff] at this
    exact this.1
  have hlow : s.head? ≠ some '_' := fun h => absurd (hs '_' h) (by decide)
  have hread : readDisplay (source ++ '.' :: (field ++ '#' :: (shortId ++ s))) =
      some (display source field (some shortId), s) := by
    have h1 := hsource.run?_append (r := '.' :: (field ++ '#' :: (shortId ++ s))) (by simp; decide)
    have h2 := hfield.run?_append (r := '#' :: (shortId ++ s)) (by simp; decide)
    have h3 := hshort.run?_append hs'
    simp [readDisplay, readShortId, literal?, h1, h2, h3, hmin, hmax, hlow]
  have htext : (display source field (some shortId)).text ++ s =
      '@' :: (source ++ '.' :: (field ++ '#' :: (shortId ++ s))) := by
    simp [text, body, optionalPart_some hshort.1]
  rw [StandsBefore, htext, read_of_readDisplay hread]

/-- A system identifier is read back where it stands alone. -/
theorem standsBefore_system {id : Text} {field : Option Text}
    (h : (system id field).WellFormed) : StandsBefore (system id field) [] := by
  have htext : (system id field).text = '@' :: (systemMark ++ (id ++ optionalPart '_' field)) := rfl
  obtain ⟨hid, hfield⟩ := h
  have chars : ∀ c ∈ systemMark ++ (id ++ optionalPart '_' field), isWord c = true ∨ c = '-' := by
    have hmark : systemMark.all isWord = true := by decide
    have hopt : ∀ c ∈ optionalPart '_' field, isWord c = true := by
      intro c hc
      rcases mem_optionalPart hc with rfl | ⟨f, hf, hc⟩
      · decide
      · exact (hfield f hf).2 c hc
    intro c hc
    simp only [List.mem_append] at hc
    rcases hc with hc | hc | hc
    · exact .inl (List.all_eq_true.1 hmark c hc)
    · have := hid.2 c hc
      rw [isIdChar, Bool.or_eq_true, beq_iff_eq] at this
      exact this.imp_left isWord_of_isAlphanum
    · exact .inl (hopt c hc)
  have hlegacy : readLegacy (systemMark ++ (id ++ optionalPart '_' field)) = none := by
    rw [Option.eq_none_iff_forall_ne_some]
    rintro ⟨i, r⟩ hi
    obtain ⟨kind, id', field', rfl⟩ := legacy_of_readLegacy hi
    have hmem : '=' ∈ systemMark ++ (id ++ optionalPart '_' field) := by
      rw [readLegacy_append hi]
      simp [body]
    exact absurd (chars _ hmem) (by decide)
  have hdisplay : readDisplay (systemMark ++ (id ++ optionalPart '_' field)) = none := by
    rw [Option.eq_none_iff_forall_ne_some]
    intro q hq
    obtain ⟨s, hs⟩ := dot_of_readDisplay hq
    have hmem : '.' ∈ systemMark ++ (id ++ optionalPart '_' field) :=
      (List.dropWhile_sublist isNameChar).subset (hs ▸ List.mem_cons_self)
    exact absurd (chars _ hmem) (by decide)
  have hsystem : readSystem (systemMark ++ (id ++ optionalPart '_' field)) =
      some (system id field, []) := by
    cases field with
    | none =>
      have h1 := hid.run?_append (r := []) (by simp)
      simp only [List.append_nil] at h1
      simp [readSystem, systemMark, literal?, optionalPart, h1]
    | some f =>
      have hf := hfield f rfl
      have h1 := hid.run?_append (r := '_' :: f) (by simp; decide)
      have h2 := hf.run?_append (r := []) (by simp)
      simp only [List.append_nil] at h2
      simp [readSystem, systemMark, literal?, optionalPart_some hf.1, h1, h2]
  rw [StandsBefore, List.append_nil, htext, read_at, hlegacy, hdisplay, hsystem]
  rfl

/-- A display identifier without a short id is read back where it stands alone. -/
theorem standsBefore_display_bare {source field : Text}
    (h : (display source field none).WellFormed) :
    StandsBefore (display source field none) [] := by
  obtain ⟨hsource, hfield, -⟩ := h
  have hread : readDisplay (source ++ '.' :: field) = some (display source field none, []) := by
    have h1 := hsource.run?_append (r := '.' :: field) (by simp; decide)
    have h2 := hfield.run?_append (r := []) (by simp)
    rw [List.append_nil] at h2
    simp [readDisplay, readShortId, literal?, h1, h2]
  have htext : (display source field none).text = '@' :: (source ++ '.' :: field) := by
    simp [text, body, optionalPart]
  rw [StandsBefore, List.append_nil, htext, read_of_readDisplay hread]

/-- A legacy identifier is read back in front of every text, since it is closed by a mark. -/
theorem standsBefore_legacy {kind id field : Text} (h : (legacy kind id field).WellFormed)
    (s : Text) : StandsBefore (legacy kind id field) s := by
  obtain ⟨hkind, hid, hfield⟩ := h
  have h1 := hkind.run?_append (r := '_' :: (id ++ '_' :: (field ++ '-' :: '=' :: s))) (by simp)
  have h2 := hid.run?_append (r := '_' :: (field ++ '-' :: '=' :: s)) (by simp; decide)
  have h3 := hfield.run?_append (r := '-' :: '=' :: s) (by simp; decide)
  have htext : (legacy kind id field).text ++ s =
      '@' :: (systemMark ++ (kind ++ '_' :: (id ++ '_' :: (field ++ '-' :: '=' :: s)))) := by
    simp [text, body]
  have hread : readLegacy (systemMark ++ (kind ++ '_' :: (id ++ '_' :: (field ++ '-' :: '=' :: s)))) =
      some (legacy kind id field, s) := by
    simp [readLegacy, systemMark, literal?, h1, h2, h3]
  rw [StandsBefore, htext, read_at, hread, Option.some_or]

/-- Every well-formed identifier is read back where it stands alone. -/
theorem standsBefore_nil {i : Identifier} (h : i.WellFormed) : StandsBefore i [] := by
  cases i with
  | display source field shortId =>
    cases shortId with
    | none => exact standsBefore_display_bare h
    | some w => exact standsBefore_display h (by simp)
  | system id field => exact standsBefore_system h
  | legacy kind id field => exact standsBefore_legacy h []

/-- A well-formed identifier stands before every stop. -/
theorem standsBefore_of_stops {i : Identifier} (h : i.WellFormed) {s : Text} (hs : Stops s) :
    StandsBefore i s :=
  (standsBefore_nil h).congr (sameStart_of_stops stops_nil hs)

/-- An identifier is the one that its text consists of. -/
theorem parse?_text {i : Identifier} (h : i.WellFormed) : parse? i.text = some i := by
  have hread := standsBefore_nil h
  rw [StandsBefore, List.append_nil] at hread
  rw [parse?, h.trim_text, hread]

end Identifier
end LiveText
