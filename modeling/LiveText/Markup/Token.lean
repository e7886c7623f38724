import LiveText.Markup.Node
import LiveText.Markup.Reference

/-!
# Tokens of markup

A text with markup is a sequence of tokens: tags, comments, declarations of the document type, and
text between them. Reading never fails: what looks like a tag and is none is text or a comment, and
a tag that the text ends in is left out.

## What is here

`tokens` takes a text apart. Every reader below it returns the rest of the text, and its lemma
`length_…` says that the rest is shorter, which is why `tokens` ends.
-/

set_option autoImplicit false

namespace LiveText.Markup

open Text

/-- A token of markup. -/
inductive Token
  | text (content : Text)
  | startTag (name : Text) (attributes : List Attribute) (closed : Bool)
  | endTag (name : Text)
  | comment (content : Text)
  | doctype (content : Text)
  deriving DecidableEq, Repr

/-! ## Characters -/

/-- The blanks of markup: space, tab, line feed, form feed and carriage return. -/
def isGap (c : Char) : Bool :=
  c == ' ' || c == '\t' || c == '\n' || c == '\x0c' || c == '\r'

/-- Whether the name of a tag ends before a character. -/
def endsTagName (c : Char) : Bool := isGap c || c == '/' || c == '>'

/-- Whether the name of an attribute ends before a character. -/
def endsAttributeName (c : Char) : Bool := endsTagName c || c == '='

/-- A name in lower case; only ASCII letters have two cases in markup. -/
def foldName (t : Text) : Text := t.map Char.toLower

/-- Whether a text begins with a word, given in lower case, in either case. -/
def beginsWith (word t : Text) : Bool := foldName (t.take word.length) == word

/-! ## Attributes -/

/-- Reads what a closing quote ends; without one there is no value. -/
def quotedValue? (quote : Char) (t : Text) : Option (Text × Text) :=
  match t.dropWhile (· != quote) with
  | [] => none
  | _ :: rest => some (t.takeWhile (· != quote), rest)

/-- Reads the value behind the name of an attribute; the value may be missing. -/
def value? (t : Text) : Option (Text × Text) :=
  match t.dropWhile isGap with
  | '=' :: r =>
    match r.dropWhile isGap with
    | '"' :: s => quotedValue? '"' s
    | '\'' :: s => quotedValue? '\'' s
    | s => some (s.takeWhile fun c => !(isGap c || c == '>'),
        s.dropWhile fun c => !(isGap c || c == '>'))
  | r => some ([], r)

theorem length_dropWhile_le (p : Char → Bool) (t : Text) : (t.dropWhile p).length ≤ t.length :=
  (List.dropWhile_sublist p).length_le

theorem length_quotedValue? {quote : Char} {t v rest : Text}
    (h : quotedValue? quote t = some (v, rest)) : rest.length ≤ t.length := by
  unfold quotedValue? at h
  split at h
  · simp at h
  · next c r hr =>
    have := length_dropWhile_le (· != quote) t
    rw [hr, List.length_cons] at this
    simp only [Option.some.injEq, Prod.mk.injEq] at h
    rw [← h.2]
    omega

theorem length_value? {t v rest : Text} (h : value? t = some (v, rest)) :
    rest.length ≤ t.length := by
  unfold value? at h
  have h₁ := length_dropWhile_le isGap t
  split at h
  · next r hr =>
    rw [hr, List.length_cons] at h₁
    have h₂ := length_dropWhile_le isGap r
    split at h
    · next s hs =>
      rw [hs, List.length_cons] at h₂
      have := length_quotedValue? h
      omega
    · next s hs =>
      rw [hs, List.length_cons] at h₂
      have := length_quotedValue? h
      omega
    · simp only [Option.some.injEq, Prod.mk.injEq] at h
      rw [← h.2]
      exact Nat.le_trans (length_dropWhile_le _ _) (by omega)
  · simp only [Option.some.injEq, Prod.mk.injEq] at h
    rw [← h.2]
    exact h₁

/-- Reads the attribute whose name begins with `c`. -/
def attribute? (c : Char) (t : Text) : Option (Attribute × Text) :=
  (value? (t.dropWhile (!endsAttributeName ·))).map fun (v, rest) =>
    (⟨foldName (c :: t.takeWhile (!endsAttributeName ·)), decode .value v⟩, rest)

theorem length_attribute? {c : Char} {t rest : Text} {a : Attribute}
    (h : attribute? c t = some (a, rest)) : rest.length ≤ t.length := by
  simp only [attribute?, Option.map_eq_some_iff, Prod.mk.injEq] at h
  obtain ⟨⟨v, r⟩, hv, -, rfl⟩ := h
  exact Nat.le_trans (length_value? hv) (length_dropWhile_le _ _)

/-- The end of a tag: its attributes, whether it closes its element at once, and what follows. -/
structure TagEnd where
  attributes : List Attribute
  closed : Bool
  rest : Text

/-- Reads a tag from behind its name; a tag that the text ends in is none. -/
def tagEnd? (t : Text) : Option TagEnd :=
  match t with
  | [] => none
  | '>' :: r => some ⟨[], false, r⟩
  | '/' :: '>' :: r => some ⟨[], true, r⟩
  | c :: r =>
    if isGap c || c == '/' then tagEnd? r
    else
      match _h : attribute? c r with
      | none => none
      | some (a, s) => (tagEnd? s).map fun e => { e with attributes := a :: e.attributes }
termination_by t.length
decreasing_by
  · simp
  · have := length_attribute? _h
    simp only [List.length_cons]
    omega

theorem length_tagEnd? {t : Text} {e : TagEnd} (h : tagEnd? t = some e) :
    e.rest.length < t.length := by
  fun_induction tagEnd? t generalizing e with
  | case1 => simp at h
  | case2 r => cases h; simp
  | case3 r => cases h; simp only [List.length_cons]; omega
  | case4 c r _ _ _ ih => have := ih h; simp only [List.length_cons]; omega
  | case5 => simp at h
  | case6 c r _ _ _ a s hs ih =>
    simp only [Option.map_eq_some_iff] at h
    obtain ⟨e', he', rfl⟩ := h
    have := ih he'
    have := length_attribute? hs
    simp only [List.length_cons]
    omega

/-- The attributes of a tag; of those with one name the first one counts. -/
def firstOfEach : List Attribute → List Attribute
  | [] => []
  | a :: as => a :: (firstOfEach as).filter (·.name != a.name)

/-! ## Comments and declarations -/

/-- Reads what stands before a closing bracket, or all that is left. -/
def throughBracket (t : Text) : Text × Text :=
  (t.takeWhile (· != '>'), (t.dropWhile (· != '>')).drop 1)

/-- Reads a comment from behind its opening mark. -/
def comment : Text → Text × Text
  | [] => ([], [])
  | '-' :: '-' :: '>' :: r => ([], r)
  | '-' :: '-' :: '!' :: '>' :: r => ([], r)
  | c :: r => (c :: (comment r).1, (comment r).2)

/-- Reads a comment that may end in its opening mark. -/
def commentOrEmpty : Text → Text × Text
  | '>' :: r => ([], r)
  | '-' :: '>' :: r => ([], r)
  | t => comment t

/-- The identifier between quotes with which a text begins, and the rest. -/
def quotedId (t : Text) : Option Text × Text :=
  match t.dropWhile isGap with
  | '"' :: r => (some (r.takeWhile (· != '"')), (r.dropWhile (· != '"')).drop 1)
  | '\'' :: r => (some (r.takeWhile (· != '\'')), (r.dropWhile (· != '\'')).drop 1)
  | r => (none, r)

/-- An identifier of a document type, behind a word. -/
def idAfter (word : String) : Option Text → Text
  | none => []
  | some id => word.toList ++ '"' :: (id ++ ['"'])

/-- The document type that a declaration names, from the text behind its keyword. -/
def doctypeContent (t : Text) : Text :=
  let t := t.dropWhile isGap
  let name := t.takeWhile (!isGap ·)
  let t := (t.dropWhile (!isGap ·)).dropWhile isGap
  if beginsWith "public".toList t then
    let (publicId, r) := quotedId (t.drop 6)
    match publicId with
    | none => name
    | some _ => name ++ idAfter " PUBLIC " publicId ++ idAfter " " (quotedId r).1
  else if beginsWith "system".toList t then
    name ++ idAfter " SYSTEM " (quotedId (t.drop 6)).1
  else name

theorem length_throughBracket (t : Text) : (throughBracket t).2.length ≤ t.length := by
  have := length_dropWhile_le (· != '>') t
  simp only [throughBracket, List.length_drop]
  omega

theorem length_comment (t : Text) : (comment t).2.length ≤ t.length := by
  fun_induction comment t with
  | case1 => simp
  | case2 r => simp only [List.length_cons]; omega
  | case3 r => simp only [List.length_cons]; omega
  | case4 c r _ _ ih => simp only [List.length_cons]; omega

theorem length_commentOrEmpty (t : Text) : (commentOrEmpty t).2.length ≤ t.length := by
  unfold commentOrEmpty
  split
  · simp
  · simp only [List.length_cons]; omega
  · exact length_comment _

/-! ## Elements whose content holds no tags -/

/-- How the content of an element is read. -/
inductive ContentRule
  /-- tags and text -/
  | markup
  /-- text alone, with references -/
  | referenced
  /-- text alone, as it is written -/
  | verbatim
  deriving DecidableEq

/-- The elements whose content is text, as it is written. -/
def verbatimNames : List Text :=
  ["script", "style", "xmp", "iframe", "noembed", "noframes"].map String.toList

/-- The elements whose content is text with references. -/
def referencedNames : List Text := ["title", "textarea"].map String.toList

/-- How the content of an element is read. -/
def ContentRule.of (name : Text) : ContentRule :=
  if name ∈ verbatimNames then verbatim
  else if name ∈ referencedNames then referenced
  else markup

/-- Whether a text begins with the end tag of an element. -/
def atEndTag (name t : Text) : Bool :=
  beginsWith ('<' :: '/' :: name) t && ((t.drop (name.length + 2)).head?.any endsTagName)

/-- The text before the end tag of an element. -/
def beforeEndTag (name : Text) : Text → Text
  | [] => []
  | c :: cs => if atEndTag name (c :: cs) then [] else c :: beforeEndTag name cs

/-- The text from the end tag of an element on. -/
def fromEndTag (name : Text) : Text → Text
  | [] => []
  | c :: cs => if atEndTag name (c :: cs) then c :: cs else fromEndTag name cs

theorem length_fromEndTag (name t : Text) : (fromEndTag name t).length ≤ t.length := by
  induction t with
  | nil => simp [fromEndTag]
  | cons c cs ih =>
    simp only [fromEndTag]
    split
    · simp
    · simp only [List.length_cons]; omega

/-- The token of a text, unless the text is empty. -/
def textToken : Text → List Token
  | [] => []
  | t => [.text t]

/-! ## Tags -/

/-- Reads a start tag from its name on, with the content of an element that holds no tags. -/
def startTag? (t : Text) : Option (List Token × Text) :=
  let name := foldName (t.takeWhile (!endsTagName ·))
  (tagEnd? (t.dropWhile (!endsTagName ·))).map fun e =>
    let tag := Token.startTag name (firstOfEach e.attributes) e.closed
    match if e.closed then .markup else ContentRule.of name with
    | .markup => ([tag], e.rest)
    | .referenced =>
      (tag :: textToken (decode .content (beforeEndTag name e.rest)), fromEndTag name e.rest)
    | .verbatim => (tag :: textToken (beforeEndTag name e.rest), fromEndTag name e.rest)

/-- Reads an end tag from its name on; its attributes are left out. -/
def endTag? (t : Text) : Option (List Token × Text) :=
  (tagEnd? (t.dropWhile (!endsTagName ·))).map fun e =>
    ([.endTag (foldName (t.takeWhile (!endsTagName ·)))], e.rest)

theorem length_startTag? {t rest : Text} {ts : List Token} (h : startTag? t = some (ts, rest)) :
    rest.length < t.length := by
  simp only [startTag?, Option.map_eq_some_iff] at h
  obtain ⟨e, he, h⟩ := h
  have h₁ := length_tagEnd? he
  have h₂ := length_dropWhile_le (!endsTagName ·) t
  have h₃ := length_fromEndTag (foldName (t.takeWhile (!endsTagName ·))) e.rest
  split at h <;> simp only [Prod.mk.injEq] at h <;> rw [← h.2] <;> omega

theorem length_endTag? {t rest : Text} {ts : List Token} (h : endTag? t = some (ts, rest)) :
    rest.length < t.length := by
  simp only [endTag?, Option.map_eq_some_iff, Prod.mk.injEq] at h
  obtain ⟨e, he, -, rfl⟩ := h
  exact Nat.lt_of_lt_of_le (length_tagEnd? he) (length_dropWhile_le _ _)

/-! ## Texts -/

/-- What an opening bracket may open. -/
inductive Opening
  /-- nothing: the bracket is text -/
  | nothing
  /-- a tag that the text ends in -/
  | unfinished
  /-- the tokens up to `rest` -/
  | found (ts : List Token) (rest : Text)

/-- A reader's answer as an opening. -/
def Opening.ofTag : Option (List Token × Text) → Opening
  | none => unfinished
  | some (ts, rest) => found ts rest

/-- Reads what stands behind an opening bracket. -/
def opening (t : Text) : Opening :=
  match t with
  | '!' :: '-' :: '-' :: r => .found [.comment (commentOrEmpty r).1] (commentOrEmpty r).2
  | '!' :: r =>
    let (content, rest) := throughBracket r
    if beginsWith "doctype".toList content then
      .found [.doctype (doctypeContent (content.drop 7))] rest
    else .found [.comment content] rest
  | '?' :: r => .found [.comment ('?' :: (throughBracket r).1)] (throughBracket r).2
  | '/' :: '>' :: r => .found [] r
  | '/' :: c :: r =>
    if c.isAlpha then .ofTag (endTag? (c :: r))
    else .found [.comment (throughBracket (c :: r)).1] (throughBracket (c :: r)).2
  | c :: r => if c.isAlpha then .ofTag (startTag? (c :: r)) else .nothing
  | [] => .nothing

theorem ofTag_eq_found {o : Option (List Token × Text)} {ts : List Token} {rest : Text}
    (h : Opening.ofTag o = .found ts rest) : o = some (ts, rest) := by
  unfold Opening.ofTag at h
  split at h
  · simp at h
  · simp only [Opening.found.injEq] at h
    rw [h.1, h.2]

/-- What follows the tokens of an opening is no longer than what follows the bracket. -/
theorem length_opening {t rest : Text} {ts : List Token} (h : opening t = .found ts rest) :
    rest.length ≤ t.length := by
  unfold opening at h
  split at h
  · next r =>
    simp only [Opening.found.injEq] at h
    have := length_commentOrEmpty r
    rw [← h.2]
    simp only [List.length_cons]
    omega
  · next r _ =>
    have := length_throughBracket r
    simp only at h
    split at h <;> simp only [Opening.found.injEq] at h <;> rw [← h.2] <;>
      simp only [List.length_cons] <;> omega
  · next r =>
    simp only [Opening.found.injEq] at h
    have := length_throughBracket r
    rw [← h.2]
    simp only [List.length_cons]
    omega
  · next r =>
    simp only [Opening.found.injEq] at h
    rw [← h.2]
    simp only [List.length_cons]
    omega
  · next c r _ =>
    split at h
    · have := length_endTag? (ofTag_eq_found h)
      simp only [List.length_cons] at this ⊢
      omega
    · simp only [Opening.found.injEq] at h
      have := length_throughBracket (c :: r)
      rw [← h.2]
      simp only [List.length_cons] at this ⊢
      omega
  · next c r _ _ _ _ _ =>
    split at h
    · exact Nat.le_of_lt (length_startTag? (ofTag_eq_found h))
    · simp at h
  · simp at h

/-- The tokens of a text with markup. -/
def tokens (t : Text) : List Token :=
  match t with
  | [] => []
  | c :: r =>
    if c = '<' then
      match _h : opening r with
      | .nothing => .text ['<'] :: tokens r
      | .unfinished => []
      | .found ts rest => ts ++ tokens rest
    else .text (decode .content (c :: r.takeWhile (· != '<'))) :: tokens (r.dropWhile (· != '<'))
termination_by t.length
decreasing_by
  · simp
  · have := length_opening _h
    simp only [List.length_cons]
    omega
  · have := length_dropWhile_le (· != '<') r
    simp only [List.length_cons]
    omega

end LiveText.Markup
