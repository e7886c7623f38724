import LiveText.Document.Content
import LiveText.Proofs.Identifier.Separation
import LiveText.Proofs.Markup.Fragment

/-!
# The text of a document made of paragraphs

A renderer writes one paragraph to a line, and a walk over paragraphs puts the lines together again:
the content of a paragraph is the text of its line, whatever the label of a tag is taken to be
(`walkText_paragraphs`). So a document that a renderer writes has the text that it was made of, once
it is read back (`rawTextOf_render`). The reader of this library reads it back unless it shortens a
blank text between two tags (`rawText_render`).
-/

set_option autoImplicit false

namespace LiveText

open Markup

/-! ## What a renderer writes -/

namespace Renderer

/-- The piece of a paragraph for a token. -/
def piece (r : Renderer) : LiveText.Token → Piece
  | .char c => .text [c]
  | .identifier i => .tag (r.attributes i) (r.info i).label

/-- The content of the paragraph for a text. -/
def line (r : Renderer) (t : Text) : Line := Line.joined ((LiveText.tokens t).map r.piece)

theorem joined_line (r : Renderer) (t : Text) : (r.line t).joined = r.line t :=
  Line.joined_joined _

/-- The contents of the paragraphs for a raw text. -/
def lines (r : Renderer) (raw : Text) : List Line :=
  (Text.lines (separate (Text.unifyLineEnds raw))).map r.line

theorem ofTokens_eq (r : Renderer) (ts : List LiveText.Token) :
    r.ofTokens ts = (Line.joined (ts.map r.piece)).map Piece.node := by
  induction ts with
  | nil => rfl
  | cons t ts ih =>
    cases t with
    | identifier i =>
      rw [ofTokens, ih]
      rfl
    | char c =>
      rw [ofTokens, ih, List.map_cons, piece, Line.joined]
      · cases Line.joined (ts.map r.piece) with
        | nil => rfl
        | cons p ps =>
          cases p with
          | text t => rfl
          | tag as label => rfl
      · simp

/-- A renderer writes paragraphs. -/
theorem paragraphs_eq (r : Renderer) (raw : Text) :
    r.paragraphs raw = (r.lines raw).map paragraph := by
  rw [paragraphs, lines, List.map_map]
  refine congrArg (fun f => List.map f _) (funext fun l => ?_)
  rw [ofText, ofTokens_eq]
  rfl

end Renderer

/-! ## What a walk over paragraphs puts out -/

/-- Joining makes no difference to what is put together of texts and tags. -/
theorem Markup.Line.flatMap_joined {α : Type} {g : Piece → List α} (hnil : g (.text []) = [])
    (happend : ∀ t u, g (.text (t ++ u)) = g (.text t) ++ g (.text u)) (l : Line) :
    l.joined.flatMap g = l.flatMap g := by
  have prepend : ∀ (t : Text) (m : Line), (m.prepend t).flatMap g = g (.text t) ++ m.flatMap g := by
    intro t m
    cases m with
    | nil => rfl
    | cons p ps =>
      cases p with
      | text u => rw [Line.prepend, List.flatMap_cons, happend, List.append_assoc]; rfl
      | tag as l => rfl
  induction l with
  | nil => rfl
  | cons p l ih =>
    cases p with
    | tag as m =>
      rw [Line.joined, List.flatMap_cons, List.flatMap_cons, ih]
      · simp
      · simp
    | text t =>
      cases t with
      | nil => rw [Line.joined, List.flatMap_cons, hnil, ih, List.nil_append]
      | cons c t =>
        rw [Line.joined, prepend, ih, List.flatMap_cons]
        simp

section
variable (label : Element → Text)

/-- What a piece contributes to the text of a document. -/
def Markup.Piece.said : Piece → Text
  | .text t => t
  | .tag as l => label ⟨spanName, as, [.prose l]⟩

/-- What a paragraph contributes to the text of a document. -/
def Markup.Line.said (l : Line) : Text := l.flatMap (Piece.said label)

/-- The piece is a text or a variable tag. -/
def Markup.Piece.Marked : Piece → Prop
  | .text _ => True
  | .tag as _ => marksVariable as = true

theorem Markup.Line.said_joined (l : Line) : l.joined.said label = l.said label :=
  l.flatMap_joined rfl fun _ _ => rfl

theorem walk_piece {p : Piece} (hp : p.Marked) (atEnd : Bool) {w : Walk}
    (hw : w.afterBlock = false) : p.node.walk label atEnd w = w.put (p.said label) := by
  have hb : w.breakLine = w := by rw [Walk.breakLine, hw]; rfl
  cases p with
  | text t =>
    rw [Piece.node, Node.prose, Node.walk, Walk.putText, hw, hb]
    rfl
  | tag as l =>
    rw [Piece.Marked] at hp
    rw [Piece.node, Node.walk, if_neg (by decide), if_pos hp, hb]
    rfl

theorem walkAll_line {l : Line} (hl : ∀ p ∈ l, p.Marked) (inBlock : Bool) {w : Walk}
    (hw : w.afterBlock = false) :
    (walkAll label inBlock (l.map Piece.node) w).text = w.text ++ l.said label := by
  induction l generalizing w with
  | nil => simp [walkAll, Line.said]
  | cons p l ih =>
    have hput : (w.put (p.said label)).afterBlock = false := hw
    rw [List.map_cons, walkAll, walk_piece label (hl p List.mem_cons_self) _ hw,
      ih (fun q hq => hl q (List.mem_cons_of_mem p hq)) hput, Walk.text_put, List.append_assoc]
    rfl

theorem walk_paragraph (l : Line) (atEnd : Bool) (w : Walk) :
    (paragraph l).walk label atEnd w =
      { walkAll label true (l.map Piece.node) w.startBlock with afterBlock := true } := by
  rw [paragraph, Node.walk, if_neg (by decide), if_neg (by decide), if_neg (by decide),
    if_pos (by decide)]

/-- Every paragraph but the first one starts a new line. -/
theorem walkAll_paragraphs {d : List Line} (hd : ∀ l ∈ d, ∀ p ∈ l, p.Marked) (inBlock : Bool)
    {w : Walk} (hw : w.afterBlock = true) :
    (walkAll label inBlock (d.map paragraph) w).text =
      w.text ++ d.flatMap fun l => '\n' :: l.said label := by
  induction d generalizing w with
  | nil => simp [walkAll]
  | cons l d ih =>
    have hstart : w.startBlock = { w.put ['\n'] with afterBlock := false } := by
      rw [Walk.startBlock, Walk.breakLine, if_pos hw, if_pos hw]
    have hline := walkAll_line label (hd l List.mem_cons_self) true (w := w.startBlock)
      (by rw [hstart])
    rw [List.map_cons, walkAll, walk_paragraph, ih (fun m hm => hd m (List.mem_cons_of_mem l hm)) rfl]
    change (walkAll label true (l.map Piece.node) w.startBlock).text ++ _ = _
    rw [hline, hstart]
    change (w.put ['\n']).text ++ _ ++ _ = _
    rw [Walk.text_put, List.flatMap_cons]
    simp

theorem joinLines_cons (t : Text) (ts : List Text) :
    Text.joinLines (t :: ts) = t ++ ts.flatMap ('\n' :: ·) := by
  induction ts generalizing t with
  | nil => simp [Text.joinLines]
  | cons u us ih =>
    rw [Text.joinLines, ih u, List.flatMap_cons]
    · rfl
    · simp

/-- **The text of paragraphs**: their contents, one to a line. -/
theorem walkText_paragraphs {d : List Line} (hd : ∀ l ∈ d, ∀ p ∈ l, p.Marked) :
    walkText label (d.map paragraph) = Text.joinLines (d.map (Line.said label)) := by
  cases d with
  | nil => rfl
  | cons l d =>
    have hstart : ({} : Walk).startBlock = {} := rfl
    rw [walkText, List.map_cons, walkAll, walk_paragraph, hstart,
      walkAll_paragraphs label (fun m hm => hd m (List.mem_cons_of_mem l hm)) false rfl,
      List.map_cons, joinLines_cons, List.flatMap_map]
    change (walkAll label true (l.map Piece.node) {}).text ++ _ = _
    rw [walkAll_line label (hd l List.mem_cons_self) true rfl]
    rfl

end

/-! ## The tags that a renderer writes -/

namespace Renderer

theorem names_attributes (r : Renderer) (i : Identifier) :
    (r.attributes i).map Attribute.name =
      ["identifier", "sourcename", "type", "data-variable", "data-identifier", "data-type",
        "data-source-name", "data-field", "data-id", "data-short-id", "class",
        "contenteditable"].map String.toList := rfl

theorem nodup_names_attributes (r : Renderer) (i : Identifier) :
    ((r.attributes i).map Attribute.name).Nodup := by
  rw [names_attributes]
  decide

/-- A label is an identifier. -/
theorem exists_label_eq (r : Renderer) (i : Identifier) : ∃ j : Identifier, (r.info i).label = j.text := by
  rw [info]
  split
  · dsimp only
    split
    · exact ⟨i, rfl⟩
    · exact ⟨_, rfl⟩
  · exact ⟨i, rfl⟩

/-- The attributes of a tag are read as they are written, with other values too: only the class of a
tag is a list of words, and it is one word. -/
theorem proper_attribute (r : Renderer) {i : Identifier} {a : Attribute} (ha : a ∈ r.attributes i)
    {f : Text → Text} (hf : f variableClass = variableClass) :
    Attribute.Proper spanName { a with value := f a.value } := by
  have hname : a.name ∈ (r.attributes i).map Attribute.name := List.mem_map_of_mem ha
  have hnames : ∀ n ∈ (r.attributes i).map Attribute.name, IsRun isNamed n := by
    rw [names_attributes]
    decide
  refine ⟨hnames _ hname, ?_⟩
  simp only [attributes, List.mem_cons, List.not_mem_nil, or_false] at ha
  rcases ha with rfl | rfl | rfl | rfl | rfl | rfl | rfl | rfl | rfl | rfl | rfl | rfl
  case inr.inr.inr.inr.inr.inr.inr.inr.inr.inr.inl =>
    dsimp only
    rw [hf]
    decide
  all_goals
    refine if_neg ?_
    dsimp only
    decide

/-- The pieces that a renderer writes can be read back. -/
theorem proper_piece (r : Renderer) (t : LiveText.Token) : (r.piece t).Proper := by
  cases t with
  | char c => trivial
  | identifier i =>
    obtain ⟨j, hj⟩ := r.exists_label_eq i
    exact ⟨hj ▸ j.text_ne_nil, r.nodup_names_attributes i,
      fun a ha => r.proper_attribute (f := id) ha rfl⟩

/-- What an element stands for does not depend on the order of its attributes. -/
theorem identifierText_ordered {as : List Attribute} (has : (as.map Attribute.name).Nodup)
    (name : Text) (children : List Node) :
    Element.identifierText ⟨name, ordered as, children⟩ =
      Element.identifierText ⟨name, as, children⟩ := by
  have hstated : Element.statedIdentifier ⟨name, ordered as, children⟩ =
      Element.statedIdentifier ⟨name, as, children⟩ := by
    rw [Element.statedIdentifier, Element.statedIdentifier, find?_ordered has, find?_ordered has]
  rw [Element.identifierText, Element.identifierText, hstated]
  rfl

/-- An element stands for the identifier that one of its attributes states. -/
theorem identifierText_of_mem {as : List Attribute} (has : (as.map Attribute.name).Nodup)
    {i : Identifier} (hi : i.WellFormed) (h : ⟨"data-identifier".toList, i.text⟩ ∈ as)
    (children : List Node) : Element.identifierText ⟨spanName, as, children⟩ = i.text := by
  have hfind : Attribute.find? "data-identifier".toList as = some ('@' :: i.body) :=
    (find?_eq_some_iff has).2 h
  have hstated : Element.statedIdentifier ⟨spanName, as, children⟩ = '@' :: i.body := by
    rw [Element.statedIdentifier, hfind]
  have htrim : Text.trim ('@' :: i.body) = '@' :: i.body := hi.trim_text
  rw [Element.identifierText, hstated, htrim]
  rfl

theorem mem_attributes (r : Renderer) (i : Identifier) :
    ⟨"data-identifier".toList, i.text⟩ ∈ r.attributes i := by
  simp [attributes]

/-- A tag stands for the identifier that it was made for. -/
theorem identifierText_attributes (r : Renderer) {i : Identifier} (hi : i.WellFormed)
    (children : List Node) :
    Element.identifierText ⟨spanName, r.attributes i, children⟩ = i.text :=
  identifierText_of_mem (r.nodup_names_attributes i) hi (r.mem_attributes i) children

/-- The same once the tag was read back. -/
theorem identifierText_tag (r : Renderer) {i : Identifier} (hi : i.WellFormed)
    (children : List Node) :
    Element.identifierText ⟨spanName, ordered (r.attributes i), children⟩ = i.text :=
  (identifierText_ordered (r.nodup_names_attributes i) _ _).trans
    (r.identifierText_attributes hi children)

theorem marksVariable_of_mem {as : List Attribute} (h : ⟨"data-variable".toList, []⟩ ∈ as) :
    marksVariable as = true := by
  rw [marksVariable, Bool.or_eq_true, Bool.or_eq_true]
  exact .inl (.inl (List.any_eq_true.2 ⟨_, h, by decide⟩))

theorem marksVariable_attributes (r : Renderer) (i : Identifier) :
    marksVariable (r.attributes i) = true :=
  marksVariable_of_mem (by simp [attributes])

/-- Whether attributes mark a tag does not depend on their order. -/
theorem marksVariable_ordered {as : List Attribute} (has : (as.map Attribute.name).Nodup) :
    marksVariable (ordered as) = marksVariable as := by
  rw [marksVariable, marksVariable, find?_ordered has, find?_ordered has, (ordered_perm as).any_eq]

theorem marksVariable_tag (r : Renderer) (i : Identifier) :
    marksVariable (ordered (r.attributes i)) = true :=
  (marksVariable_ordered (r.nodup_names_attributes i)).trans (r.marksVariable_attributes i)

end Renderer

/-! ## Reading what a renderer writes -/

/-- A tag that is read back is still one. -/
theorem Markup.Piece.Marked.ordered {p : Piece} (h : p.Marked) (hp : p.Proper) :
    p.ordered.Marked := by
  cases p with
  | text t => trivial
  | tag as label => exact (Renderer.marksVariable_ordered hp.2.1).trans h

theorem Markup.Line.said_map_ordered (label : Element → Text) (l : Line) :
    Line.said label (l.map Piece.ordered) =
      l.said fun e => label { e with attributes := ordered e.attributes } := by
  rw [Line.said, Line.said, List.flatMap_map]
  refine List.flatMap_congr fun p _ => ?_
  cases p with
  | text t => rfl
  | tag as l => rfl

/-- **The text of paragraphs that were read back**: their contents, one to a line. -/
theorem walkText_map_readBack (label : Element → Text) {d : List Line}
    (hd : ∀ l ∈ d, ∀ p ∈ l, p.ordered.Marked) :
    walkText label (d.map readBack) =
      Text.joinLines (d.map fun l => Line.said label (l.joined.map Piece.ordered)) := by
  have hmarked : ∀ l ∈ d.map fun l => l.joined.map Piece.ordered, ∀ p ∈ l, p.Marked := by
    intro l hl p hp
    obtain ⟨m, hm, rfl⟩ := List.mem_map.1 hl
    obtain ⟨q, hq, rfl⟩ := List.mem_map.1 hp
    exact Line.forall_mem_joined (P := fun q => q.ordered.Marked) (fun _ _ _ _ => trivial)
      (hd m hm) q hq
  have hwalk := walkText_paragraphs label hmarked
  rw [List.map_map, List.map_map] at hwalk
  exact hwalk

namespace Renderer

/-- What a renderer writes in a line are texts and variable tags, and they can be read back. -/
theorem proper_marked_line (r : Renderer) (t : Text) : ∀ p ∈ r.line t, p.Proper ∧ p.Marked := by
  refine Line.forall_mem_joined (fun _ _ _ _ => ⟨trivial, trivial⟩) fun p hp => ?_
  obtain ⟨s, -, rfl⟩ := List.mem_map.1 hp
  refine ⟨r.proper_piece s, ?_⟩
  cases s with
  | char c => trivial
  | identifier i => exact r.marksVariable_attributes i

theorem marked_line (r : Renderer) (t : Text) : ∀ p ∈ r.line t, p.ordered.Marked := by
  intro p hp
  obtain ⟨hproper, hmarked⟩ := r.proper_marked_line t p hp
  exact hmarked.ordered hproper

/-- A line says the text that it was made of, with what its tags say in the places of the
identifiers. -/
theorem said_line_of (r : Renderer) {label : Element → Text} {f : Identifier → Text} {t : Text}
    (h : ∀ i, .identifier i ∈ LiveText.tokens t →
      label ⟨spanName, r.attributes i, [.prose (r.info i).label]⟩ = f i) :
    Line.said label (r.line t) = substitute f (LiveText.tokens t) := by
  have hpiece : ∀ s ∈ LiveText.tokens t, Piece.said label (r.piece s) = substitute f [s] := by
    intro s hs
    cases s with
    | char c => rfl
    | identifier i => exact (h i hs).trans (List.append_nil _).symm
  calc Line.said label (r.line t)
      = (LiveText.tokens t).flatMap fun s => Piece.said label (r.piece s) := by
        rw [line, Line.said_joined, Line.said, List.flatMap_map]
    _ = (LiveText.tokens t).flatMap fun s => substitute f [s] := List.flatMap_congr hpiece
    _ = substitute f (LiveText.tokens t) := by
        rw [substitute]
        exact List.flatMap_congr fun s _ => List.append_nil _

/-- The same once the line was read back. -/
theorem said_line_eq (r : Renderer) {label : Element → Text} {f : Identifier → Text} {t : Text}
    (h : ∀ i, .identifier i ∈ LiveText.tokens t →
      label ⟨spanName, ordered (r.attributes i), [.prose (r.info i).label]⟩ = f i) :
    Line.said label ((r.line t).joined.map Piece.ordered) = substitute f (LiveText.tokens t) := by
  rw [Line.said_map_ordered, r.joined_line]
  exact r.said_line_of h

/-- The identifiers that the tags of a line stand for and the texts between them make up the
line. -/
theorem said_line (r : Renderer) (t : Text) :
    Line.said Element.identifierText ((r.line t).joined.map Piece.ordered) = t := by
  rw [r.said_line_eq fun i hi =>
      r.identifierText_tag ((reading_tokensAfter none t).wellFormed hi) _,
    substitute_text, written_tokens]

theorem proper_lines (r : Renderer) (raw : Text) : ∀ l ∈ r.lines raw, ∀ p ∈ l, p.Proper := by
  intro l hl
  obtain ⟨t, -, rfl⟩ := List.mem_map.1 hl
  exact fun p hp => (r.proper_marked_line t p hp).1

/-- The paragraphs that are read back have the text that they were made of. -/
theorem walkText_readBack (r : Renderer) (raw : Text) :
    walkText Element.identifierText ((r.lines raw).map readBack) =
      separate (Text.unifyLineEnds raw) := by
  have hmarked : ∀ l ∈ r.lines raw, ∀ p ∈ l, p.ordered.Marked := by
    intro l hl
    obtain ⟨t, -, rfl⟩ := List.mem_map.1 hl
    exact r.marked_line t
  have hsaid : (r.lines raw).map
      (fun l => Line.said Element.identifierText (l.joined.map Piece.ordered)) =
        Text.lines (separate (Text.unifyLineEnds raw)) := by
    rw [Renderer.lines, List.map_map]
    exact (List.map_congr_left fun t _ => r.said_line t).trans (List.map_id _)
  rw [walkText_map_readBack _ hmarked, hsaid, Text.joinLines_lines]

theorem rawTextOf_readBack (r : Renderer) (raw : Text) :
    rawTextOf ((r.lines raw).map readBack) = separate (Text.unifyLineEnds raw) := by
  rw [rawTextOf, r.walkText_readBack, separate_separate]

end Renderer

/-- **A document has the text that it was made of**, whatever reader it is read back by. -/
theorem rawTextOf_render {parse : Text → List Node} (hparse : ReadsBack parse) (r : Renderer)
    (raw : Text) (hplain : Plain (r.paragraphs raw)) :
    rawTextOf (parse (r.render raw)) = separate (Text.unifyLineEnds raw) := by
  cases raw with
  | nil =>
    have hnil : parse (write []) = [] := hparse [] (by simp) (by simp [Plain, strings])
    exact congrArg rawTextOf hnil
  | cons c cs =>
    rw [r.paragraphs_eq] at hplain
    rw [Renderer.render, if_neg (by simp), r.paragraphs_eq, hparse _ (r.proper_lines _) hplain,
      r.rawTextOf_readBack]

/-- Two identifiers without a gap and an empty line, among characters that markup is made of. -/
theorem rawTextOf_render_two_lines :
    let raw := "<b> @npc.hp@npc.mp\r\n\r\n & @gv_a1b2_hp".toList
    Plain (({} : Renderer).paragraphs raw) ∧
      rawTextOf (readWith (fun _ => true) (({} : Renderer).render raw)) =
        "<b> @npc.hp @npc.mp\n\n & @gv_a1b2_hp".toList := by
  have hplain : Plain (({} : Renderer).paragraphs
      "<b> @npc.hp@npc.mp\r\n\r\n & @gv_a1b2_hp".toList) := by decide +kernel
  refine ⟨hplain, ?_⟩
  rw [rawTextOf_render readsBack_keeping {} _ hplain]
  decide +kernel

/-- The reader of this library shortens blank texts. A document in which there is none to shorten has
the text that it was made of. -/
theorem rawText_render (r : Renderer) (raw : Text) (hplain : Plain (r.paragraphs raw))
    (hkept : ∀ l ∈ r.lines raw, Kept keepsBlanks l.joined) :
    rawText (r.render raw) = separate (Text.unifyLineEnds raw) := by
  cases raw with
  | nil =>
    exact congrArg rawTextOf (readWith_nil keepsBlanks)
  | cons c cs =>
    rw [r.paragraphs_eq] at hplain
    rw [Renderer.render, if_neg (by simp), r.paragraphs_eq, rawText, Markup.read,
      readWith_write (r.proper_lines _) hplain hkept, r.rawTextOf_readBack]

end LiveText
