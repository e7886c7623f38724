import LiveText.Validation.Basic

/-!
# Checking records
-/

set_option autoImplicit false

namespace LiveText

/-- The check of a record. -/
def Record.check (v : Value) : Checked Record :=
  if v.isObject then
    Record.mk <$> required checkText "id" v
      <*> required checkText "source_name" v
      <*> required checkText "field" v
      <*> optional checkKind .unknown "type" v
      <*> optional checkText [] "value" v
      <*> optional checkText [] "name" v
      <*> optional checkText [] "identifier" v
      <*> optional checkTextOrNull none "source_id" v
  else .error [⟨[], .notObject⟩]

/-- The check of a list of records; the first record with an issue decides. -/
def Record.checkAll (vs : List Value) : Checked (List Record) := Checked.all Record.check vs

end LiveText
