import LiveText.Markup.Fragment
import LiveText.Proofs.Text.Letters
import LiveText.Proofs.Text.Run

/-!
# Documents made of paragraphs

The documents that are written here are plain: a list of paragraphs, each of them a list of texts
and of tags with a label. A `Line` is the content of such a paragraph, `paragraph` the node for it.

What a reader of markup owes to such a document is said by `ReadsBack`: it gives back the paragraphs
that were written, with neighbouring texts joined (`Line.joined`) and with the attributes of a tag in
the order in which they are written (`Piece.ordered`). Nothing is asked of it where a text or a value
holds control characters, which markup does not keep.
-/

set_option autoImplicit false

namespace LiveText.Markup

/-! ## Paragraphs -/

/-- A piece of a paragraph. -/
inductive Piece
  | text (t : Text)
  /-- a tag with a label -/
  | tag (attributes : List Attribute) (label : Text)
  deriving DecidableEq

/-- The content of a paragraph. -/
abbrev Line := List Piece

/-- The node of a piece. -/
def Piece.node : Piece → Node
  | text t => .prose t
  | tag as label => .element spanName as [.prose label]

/-- The node of a paragraph. -/
def paragraph (l : Line) : Node := .element paragraphName [] (l.map Piece.node)

/-- Attributes in the order in which they are written. -/
def ordered (as : List Attribute) : List Attribute :=
  as.mergeSort fun a b => Text.notAfter a.name b.name

/-- A piece with its attributes in the order in which they are written. -/
def Piece.ordered : Piece → Piece
  | text t => text t
  | tag as label => tag (Markup.ordered as) label

/-- A text in front of the content of a paragraph, joined to the text that the content begins
with. -/
def Line.prepend (t : Text) : Line → Line
  | .text u :: ps => .text (t ++ u) :: ps
  | ps => .text t :: ps

/-- The content of a paragraph with neighbouring texts joined and empty ones left out. -/
def Line.joined : Line → Line
  | [] => []
  | .text [] :: ps => Line.joined ps
  | .text t :: ps => (Line.joined ps).prepend t
  | p :: ps => p :: Line.joined ps

/-! ## Plain documents -/

/-- Control characters other than the tab and the line feed have no place in markup. -/
def isPlain (c : Char) : Bool :=
  c == '\t' || c == '\n' || !(c.toNat < 32 || (127 ≤ c.toNat && c.toNat ≤ 159))

mutual

/-- The texts of a node and the values of its attributes. -/
def Node.strings : Node → List Text
  | .text _ t => [t]
  | .comment t => [t]
  | .doctype t => [t]
  | .element _ as children => as.map Attribute.value ++ strings children

/-- The texts of nodes and the values of their attributes. -/
def strings : List Node → List Text
  | [] => []
  | n :: ns => n.strings ++ strings ns

end

/-- No text of the nodes and no value of their attributes holds a control character that markup does
not keep. -/
def Plain (ns : List Node) : Prop := ∀ t ∈ strings ns, ∀ c ∈ t, isPlain c = true

instance (ns : List Node) : Decidable (Plain ns) :=
  decidable_of_iff ((strings ns).all (·.all isPlain) = true) (by simp [Plain])

/-- The characters that stand in the names of tags and attributes: lower case letters and hyphens. -/
def isNamed (c : Char) : Bool := c.isLower || c == '-'

/-- An attribute with a name that is read as it is written. -/
def Attribute.Named (a : Attribute) : Prop := IsRun isNamed a.name

/-- An attribute that is read as it is written: if its value is a list of words, then one space
stands between them. -/
def Attribute.Proper (element : Text) (a : Attribute) : Prop := a.Named ∧ a.tidied element = a

/-- A tag has a label and attributes with different names. -/
def Piece.Proper : Piece → Prop
  | text _ => True
  | tag as label => label ≠ [] ∧ (as.map Attribute.name).Nodup ∧ ∀ a ∈ as, a.Proper spanName

/-- What a paragraph is read back as. -/
def readBack (l : Line) : Node := paragraph (l.joined.map Piece.ordered)

/-- **What is asked of a reader of markup**: plain documents made of paragraphs are given back as
they were written, with neighbouring texts joined. -/
def ReadsBack (parse : Text → List Node) : Prop :=
  ∀ d : List Line, (∀ l ∈ d, ∀ p ∈ l, p.Proper) → Plain (d.map paragraph) →
    parse (write (d.map paragraph)) = d.map readBack

/-- Nothing is read of nothing. -/
theorem ReadsBack.nil {parse : Text → List Node} (h : ReadsBack parse) : parse [] = [] :=
  h [] (by simp) (by simp [Plain, strings])

/-! ## Order -/

theorem ordered_perm (as : List Attribute) : (ordered as).Perm as := List.mergeSort_perm _ _

theorem mem_ordered {as : List Attribute} {a : Attribute} : a ∈ ordered as ↔ a ∈ as :=
  (ordered_perm as).mem_iff

theorem notAfter_total (s t : Text) : (Text.notAfter s t || Text.notAfter t s) = true := by
  induction s generalizing t with
  | nil => rfl
  | cons c s ih =>
    cases t with
    | nil => rfl
    | cons d t =>
      rw [Text.notAfter, Text.notAfter]
      rcases Nat.lt_trichotomy c.toNat d.toNat with hlt | heq | hlt
      · simp [hlt]
      · obtain rfl := Char.toNat_inj.1 heq
        simpa using ih t
      · simp [hlt]

theorem notAfter_trans {s t u : Text} (hst : Text.notAfter s t = true)
    (htu : Text.notAfter t u = true) : Text.notAfter s u = true := by
  induction s generalizing t u with
  | nil => rfl
  | cons c s ih =>
    cases t with
    | nil => cases hst
    | cons d t =>
      cases u with
      | nil => cases htu
      | cons e u =>
        simp only [Text.notAfter, Bool.or_eq_true, Bool.and_eq_true, decide_eq_true_eq,
          beq_iff_eq] at hst htu ⊢
        rcases hst with hst | ⟨rfl, hst⟩
        · rcases htu with htu | ⟨rfl, -⟩
          · exact .inl (Nat.lt_trans hst htu)
          · exact .inl hst
        · exact htu.imp_right fun ⟨heq, htu⟩ => ⟨heq, ih hst htu⟩

/-- What is in order stays as it is. -/
theorem ordered_ordered (as : List Attribute) : ordered (ordered as) = ordered as := by
  refine List.mergeSort_of_pairwise (List.pairwise_mergeSort ?_ ?_ as)
  · exact fun a b c hab hbc => notAfter_trans hab hbc
  · exact fun a b => notAfter_total a.name b.name

/-- Where the names differ, an attribute is found by its name. -/
theorem find?_eq_some_iff {as : List Attribute} (h : (as.map Attribute.name).Nodup)
    {name value : Text} : Attribute.find? name as = some value ↔ ⟨name, value⟩ ∈ as := by
  rw [Attribute.find?, Option.map_eq_some_iff]
  constructor
  · rintro ⟨a, ha, rfl⟩
    have hname : a.name = name := by simpa using List.find?_some ha
    subst hname
    exact List.mem_of_find?_eq_some ha
  · intro hm
    induction as with
    | nil => simp at hm
    | cons a as ih =>
      rw [List.map_cons, List.nodup_cons] at h
      rcases List.mem_cons.1 hm with rfl | hm
      · exact ⟨⟨name, value⟩, by simp, rfl⟩
      · have hne : a.name ≠ name := fun he => h.1 (he ▸ List.mem_map_of_mem hm)
        obtain ⟨b, hb, hv⟩ := ih h.2 hm
        exact ⟨b, by simpa [hne] using hb, hv⟩

/-- The order of attributes does not matter when one is looked up. -/
theorem find?_ordered {as : List Attribute} (h : (as.map Attribute.name).Nodup) (name : Text) :
    Attribute.find? name (ordered as) = Attribute.find? name as := by
  have h' : ((ordered as).map Attribute.name).Nodup :=
    ((ordered_perm as).map Attribute.name).nodup_iff.2 h
  refine Option.ext fun value => ?_
  rw [find?_eq_some_iff h', find?_eq_some_iff h, mem_ordered]

/-! ## Joining -/

/-- Joining makes new texts of those that are there, but no new tags. -/
theorem Line.forall_mem_joined {P : Piece → Prop}
    (happend : ∀ t u, P (.text t) → P (.text u) → P (.text (t ++ u))) {l : Line}
    (h : ∀ p ∈ l, P p) : ∀ p ∈ l.joined, P p := by
  have prepend : ∀ {t : Text} {m : Line}, P (.text t) → (∀ p ∈ m, P p) →
      ∀ p ∈ m.prepend t, P p := by
    intro t m ht hm
    cases m with
    | nil => exact List.forall_mem_singleton.2 ht
    | cons p ps =>
      cases p with
      | text u =>
        obtain ⟨hu, hps⟩ := List.forall_mem_cons.1 hm
        exact List.forall_mem_cons.2 ⟨happend t u ht hu, hps⟩
      | tag as label => exact List.forall_mem_cons.2 ⟨ht, hm⟩
  induction l with
  | nil => exact h
  | cons p l ih =>
    obtain ⟨hp, hl⟩ := List.forall_mem_cons.1 h
    cases p with
    | tag as label =>
      rw [joined]
      · exact List.forall_mem_cons.2 ⟨hp, ih hl⟩
      · simp
      · simp
    | text t =>
      cases t with
      | nil => exact ih hl
      | cons c t =>
        rw [joined]
        · exact prepend hp (ih hl)
        · simp

end LiveText.Markup
