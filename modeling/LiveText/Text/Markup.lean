import LiveText.Text.Basic

/-!
# Tags in a text, read by eye

Before a text is parsed it is only looked over for tags: something between angle brackets, with at
least one character between them.
-/

set_option autoImplicit false

namespace LiveText.Text

/-- What follows a tag, given what follows its opening bracket. -/
def behindTag? (t : Text) : Option Text :=
  match run? (· != '>') t with
  | some (_, _ :: r) => some r
  | _ => none

/-- Whether a text holds a tag. -/
def hasMarkup : Text → Bool
  | [] => false
  | c :: cs => (c == '<' && (behindTag? cs).isSome) || hasMarkup cs

theorem length_behindTag? {t r : Text} (h : behindTag? t = some r) : r.length < t.length := by
  unfold behindTag? at h
  split at h
  · next w c r' hr =>
    simp only [Option.some.injEq] at h
    subst h
    rw [run?_append hr, List.length_append, List.length_cons]
    omega
  · simp at h

/-- The text without its tags. -/
def withoutTags : Text → Text
  | [] => []
  | c :: cs =>
    match _h : if c = '<' then behindTag? cs else none with
    | some r => withoutTags r
    | none => c :: withoutTags cs
termination_by t => t.length
decreasing_by
  · have hb : behindTag? cs = some r := by
      split at _h
      · exact _h
      · simp at _h
    have := length_behindTag? hb
    simp only [List.length_cons]
    omega
  · simp

end LiveText.Text
