import LiveText.Document.Content
import LiveText.Validation.Basic

/-!
# Checking contents

Each of the three forms of a content may be left out, and is empty then.
-/

set_option autoImplicit false

namespace LiveText

/-- The check of a content. -/
def Content.check (v : Value) : Checked Content :=
  if v.isObject then
    Content.mk <$> optional checkText [] "html" v
      <*> optional checkText [] "raw_text" v
      <*> optional checkText [] "plain_text" v
  else .error [⟨[], .notObject⟩]

end LiveText
