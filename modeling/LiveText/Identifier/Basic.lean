import LiveText.Text.Basic

/-!
# Identifiers

An identifier is a reference, written in a text, to one field of a catalog record. There are two
forms, and one more that is only read:

* the *display* form `@source.field#shortId` names the source as an author knows it; the short id,
  which tells two sources of one name apart, may be missing;
* the *system* form `@gv_id_field` names the record by its id; the field may be missing;
* the *legacy* form `@gv_kind_id_field-=` is a system identifier of older texts, whose kind takes
  no part in lookups.

## What is here

`Identifier` holds the parts, `Identifier.text` writes them. The classes of characters that the
parts are made of are `isWord`, `isNameChar`, `isIdChar`.
-/

set_option autoImplicit false

namespace LiveText

/-! ## Character classes -/

/-- ASCII letters, digits and the underscore: the characters that bound an identifier. -/
def isWord (c : Char) : Bool := c.isAlphanum || c == '_'

/-- The ideographs that a source name may hold beside word characters. -/
def isIdeograph (c : Char) : Bool :=
  let n := c.toNat
  (0x3400 ≤ n && n ≤ 0x4DBF) || (0x4E00 ≤ n && n ≤ 0x9FFF) || (0xF900 ≤ n && n ≤ 0xFAFF)

/-- The characters of a source name. -/
def isNameChar (c : Char) : Bool := isWord c || isIdeograph c

/-- The characters of a record id: ASCII letters, digits and the hyphen. -/
def isIdChar (c : Char) : Bool := c.isAlphanum || c == '-'

/-! ## Parts and text -/

/-- A reference to one field of a record. -/
inductive Identifier
  /-- `@source.field`, with `#shortId` when there is one -/
  | display (source field : Text) (shortId : Option Text)
  /-- `@gv_id`, with `_field` when there is one -/
  | system (id : Text) (field : Option Text)
  /-- `@gv_kind_id_field-=` -/
  | legacy (kind id field : Text)
  deriving DecidableEq, Repr

namespace Identifier

/-- The mark of a system identifier, behind the at sign. -/
def systemMark : Text := ['g', 'v', '_']

/-- An optional part behind its mark; an empty part is left out with its mark. -/
def optionalPart (mark : Char) : Option Text → Text
  | none => []
  | some [] => []
  | some (c :: cs) => mark :: c :: cs

/-- What is written behind the at sign. -/
def body : Identifier → Text
  | display source field shortId => source ++ '.' :: (field ++ optionalPart '#' shortId)
  | system id field => systemMark ++ (id ++ optionalPart '_' field)
  | legacy kind id field =>
    systemMark ++ (kind ++ '_' :: (id ++ '_' :: (field ++ ['-', '='])))

/-- The identifier as it is written in a text. -/
def text (i : Identifier) : Text := '@' :: i.body

/-- Whether the identifier names its source; the other ones name a record id. -/
def isDisplay : Identifier → Bool
  | display .. => true
  | _ => false

/-- Whether the identifier has the legacy form. -/
def isLegacy : Identifier → Bool
  | legacy .. => true
  | _ => false

/-- The field that the identifier names. -/
def field? : Identifier → Option Text
  | display _ field _ => some field
  | system _ field => field
  | legacy _ _ field => some field

/-- The source that the identifier names. -/
def source? : Identifier → Option Text
  | display source _ _ => some source
  | _ => none

/-- The short id behind a display identifier. -/
def shortId? : Identifier → Option Text
  | display _ _ shortId => shortId
  | _ => none

/-- The record id that the identifier names. -/
def id? : Identifier → Option Text
  | display .. => none
  | system id _ => some id
  | legacy _ id _ => some id

/-- The last character of a written identifier. -/
def lastChar (i : Identifier) : Option Char := i.text.getLast?

theorem text_ne_nil (i : Identifier) : i.text ≠ [] := by simp [text]

/-- A written identifier has at least one character. -/
theorem length_text_pos (i : Identifier) : 0 < i.text.length := by simp [text]

end Identifier
end LiveText
