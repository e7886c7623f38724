import LiveText.Proofs.Markup.Preparing

/-!
# Reading back paragraphs

A document made of paragraphs is written and read back: `prepared_write` says that the text is read
as if its line ends had been unified before it was written, `tokens_wrapped` which tokens it is taken
apart into, and `nodes_wrapped` which nodes are assembled from them.

## What is here

* **`readWith_write_eq`**: what is read back, by any reader.
* **`readWith_write_prepared`**: what is read back is what was written, but for line ends and null
  characters, if the reader keeps its texts. `readWith_write` is the case of a plain document, in
  which there are none.
* `readsBack_keeping`: by a reader that keeps all blanks, paragraphs are read back.
-/

set_option autoImplicit false

namespace LiveText.Markup

open Text

/-- **What is read of paragraphs that were written**: their contents with unified line ends, and with
those texts shortened that the reader does not keep. -/
theorem readWith_write_eq {keeps : Text → Bool} {d : List Line}
    (hp : ∀ l ∈ d, ∀ p ∈ l, p.Proper) (hp' : ∀ l ∈ d, ∀ p ∈ l.prepared, p.Proper) :
    readWith keeps (write (d.map paragraph)) = (d.map Line.prepared).map (readBackBy keeps) := by
  have hwrapped : prepared ("<div>".toList ++ write (d.map paragraph) ++ "</div>".toList) =
      "<div>".toList ++ write ((d.map Line.prepared).map paragraph) ++ "</div>".toList := by
    rw [List.append_assoc, prepared_append_of_stable (by decide), prepared_write hp,
      prepared_eq_self (by decide), List.append_assoc]
  rw [readWith, hwrapped, tokens_wrapped (List.forall_mem_map.2 hp'),
    nodes_wrapped (List.forall_mem_map.2 hp'), dissolveWrapper, if_pos rfl, List.append_nil]

/-- **Paragraphs are read back as they were written**, but for line ends and null characters, by a
reader that keeps their texts. -/
theorem readWith_write_prepared {keeps : Text → Bool} {d : List Line}
    (hp : ∀ l ∈ d, ∀ p ∈ l, p.Proper) (hp' : ∀ l ∈ d, ∀ p ∈ l.prepared, p.Proper)
    (hk : ∀ l ∈ d, Kept keeps l.prepared.joined) :
    readWith keeps (write (d.map paragraph)) = (d.map Line.prepared).map readBack := by
  rw [readWith_write_eq hp hp', List.map_map, List.map_map]
  exact List.map_congr_left fun l hl => readBackBy_of_kept (hk l hl)

/-! ## Plain documents -/

theorem prepared_piece {p : Piece} (h : ∀ t ∈ p.node.strings, t.all isPlain = true) :
    p.prepared = p := by
  cases p with
  | text t =>
    have htext := h t (List.mem_singleton.2 rfl)
    exact congrArg Piece.text (prepared_eq_self (stable_of_plain htext))
  | tag as label =>
    have has : as.map Attribute.prepared = as := by
      refine (List.map_congr_left fun a ha => ?_).trans (List.map_id as)
      have hvalue := h a.value (List.mem_append_left _ (List.mem_map_of_mem ha))
      rw [Attribute.prepared, prepared_eq_self (stable_of_plain hvalue), id]
    have hlabel := h label (List.mem_append_right _ (List.mem_singleton.2 rfl))
    rw [Piece.prepared, has, prepared_eq_self (stable_of_plain hlabel)]

theorem strings_eq_flatMap (ns : List Node) : strings ns = ns.flatMap Node.strings := by
  induction ns with
  | nil => rfl
  | cons n ns ih => rw [strings, ih, List.flatMap_cons]

/-- A document is plain if the pieces of its paragraphs are. -/
theorem plain_map_paragraph {d : List Line} :
    Plain (d.map paragraph) ↔ ∀ l ∈ d, ∀ p ∈ l, ∀ t ∈ p.node.strings, t.all isPlain = true := by
  have hstrings : ∀ l : Line, (paragraph l).strings = strings (l.map Piece.node) := fun _ => rfl
  simp only [Plain, strings_eq_flatMap, hstrings, List.flatMap_map, List.mem_flatMap,
    List.all_eq_true, forall_exists_index, and_imp]
  exact ⟨fun h l hl p hp t ht => h t l hl p hp ht, fun h t l hl p hp ht => h l hl p hp t ht⟩

/-- There is nothing to prepare in a plain line. -/
theorem Line.prepared_of_plain {l : Line}
    (h : ∀ p ∈ l, ∀ t ∈ p.node.strings, t.all isPlain = true) : l.prepared = l.joined := by
  have hjoined : ∀ p ∈ l.joined, ∀ t ∈ p.node.strings, t.all isPlain = true := by
    refine Line.forall_mem_joined (fun t u ht hu => ?_) h
    intro w hw
    obtain rfl := List.mem_singleton.1 hw
    rw [List.all_append, ht t (List.mem_singleton.2 rfl), hu u (List.mem_singleton.2 rfl)]
    rfl
  exact (List.map_congr_left fun p hp => prepared_piece (hjoined p hp)).trans (List.map_id _)

/-- **Plain paragraphs are read back as they were written**, by a reader that keeps their texts. -/
theorem readWith_write {keeps : Text → Bool} {d : List Line} (hp : ∀ l ∈ d, ∀ p ∈ l, p.Proper)
    (hplain : Plain (d.map paragraph)) (hk : ∀ l ∈ d, Kept keeps l.joined) :
    readWith keeps (write (d.map paragraph)) = d.map readBack := by
  have hprepared : ∀ l ∈ d, l.prepared = l.joined := fun l hl =>
    Line.prepared_of_plain (plain_map_paragraph.1 hplain l hl)
  have hp' : ∀ l ∈ d, ∀ p ∈ l.prepared, p.Proper := by
    intro l hl
    rw [hprepared l hl]
    exact Line.forall_mem_joined (fun _ _ _ _ => trivial) (hp l hl)
  have hk' : ∀ l ∈ d, Kept keeps l.prepared.joined := by
    intro l hl
    rw [hprepared l hl, Line.joined_joined]
    exact hk l hl
  rw [readWith_write_prepared hp hp' hk', List.map_map]
  refine List.map_congr_left fun l hl => ?_
  rw [Function.comp_apply, hprepared l hl, readBack, Line.joined_joined, readBack]

/-- Nothing is read of nothing. -/
theorem readWith_nil (keeps : Text → Bool) : readWith keeps [] = [] :=
  readWith_write (d := []) (by simp) (by simp [Plain, strings]) (by simp)

/-- A reader that keeps all blanks reads paragraphs back. -/
theorem readsBack_keeping : ReadsBack (readWith fun _ => true) := fun _ hp hplain =>
  readWith_write hp hplain fun _ _ _ _ => .inl rfl

end LiveText.Markup
