import LiveText.Identifier.Reader

/-!
# The identifiers of a text

A text is a sequence of tokens: identifiers, and single characters between them. `tokens` takes a
text apart in one pass from the left; `text_tokens` says that nothing is lost. What one finds in a
text (`occurrences`) and what one gets by replacing its identifiers in place
(`replaceIdentifiers`) are both read off the tokens.
-/

set_option autoImplicit false

namespace LiveText

open Text

/-! ## Tokens -/

/-- An identifier, or a character that belongs to none. -/
inductive Token
  | char (c : Char)
  | identifier (i : Identifier)
  deriving DecidableEq, Repr

namespace Token

/-- A token as it is written. -/
def text : Token → Text
  | char c => [c]
  | identifier i => i.text

end Token

/-- The tokens of a text that follows the character `prev`. -/
def tokensAfter (prev : Option Char) (t : Text) : List Token :=
  match _h : Identifier.readAfter prev t with
  | some (i, r) => .identifier i :: tokensAfter i.lastChar r
  | none =>
    match t with
    | [] => []
    | c :: cs => .char c :: tokensAfter (some c) cs
termination_by t.length
decreasing_by
  · exact Identifier.length_lt_of_readAfter ‹_›
  · simp

/-- The tokens of a text. -/
def tokens (t : Text) : List Token := tokensAfter none t

/-- Nothing is lost when a text is taken apart into tokens. -/
theorem text_tokensAfter (prev : Option Char) (t : Text) :
    (tokensAfter prev t).flatMap Token.text = t := by
  fun_induction tokensAfter prev t with
  | case1 prev t i r h ih =>
    rw [List.flatMap_cons, ih, Token.text,
      ← Identifier.read_append (Identifier.read_of_readAfter h)]
  | case2 => rfl
  | case3 prev c cs h ih => rw [List.flatMap_cons, ih]; rfl

/-- Nothing is lost when a text is taken apart into tokens. -/
theorem text_tokens (t : Text) : (tokens t).flatMap Token.text = t := text_tokensAfter none t

/-! ## Occurrences -/

/-- An identifier at the offset where it starts. -/
structure Occurrence where
  identifier : Identifier
  start : Nat
  deriving DecidableEq, Repr

namespace Occurrence

/-- The offset behind the last character of the identifier. -/
def stop (o : Occurrence) : Nat := o.start + o.identifier.text.length

end Occurrence

/-- The identifiers of a token sequence that starts at the offset `start`. -/
def occurrencesFrom (start : Nat) : List Token → List Occurrence
  | [] => []
  | .char _ :: ts => occurrencesFrom (start + 1) ts
  | .identifier i :: ts => ⟨i, start⟩ :: occurrencesFrom (start + i.text.length) ts

/-- The identifiers of a text, in order. -/
def occurrences (t : Text) : List Occurrence := occurrencesFrom 0 (tokens t)

/-- The identifiers of the legacy form in a text, in order. -/
def legacyOccurrences (t : Text) : List Occurrence :=
  (occurrences t).filter (·.identifier.isLegacy)

/-! ## Replacing -/

/-- The token sequence as a text in which `f` gives what stands for each identifier. -/
def substitute (f : Identifier → Text) (ts : List Token) : Text :=
  ts.flatMap fun
    | .char c => [c]
    | .identifier i => f i

/-- The text with every identifier replaced to which `f` gives a replacement. -/
def replaceIdentifiers (f : Identifier → Option Text) (t : Text) : Text :=
  substitute (fun i => (f i).getD i.text) (tokens t)

end LiveText
