import LiveText.Proofs.Document.Resolution
import LiveText.Proofs.Markup.Writable

/-!
# What resolving changes in a document

Of a document a reader sees the variable tags and the texts, but neither the comments and declarations
nor what stands in scripts and style sheets. `visibleNodes` puts values into what is seen and leaves
the rest alone.

* `resolveNodes` looks at every string of a document. It does what `visibleNodes` does where nothing
  is resolved in the strings that are not seen (`hidden`), and nowhere else
  (`resolveNodes_eq_visibleNodes_iff`).
* Values that are put into what is seen stay texts: the document that is written and read again is the
  same but for its texts, whatever the values are (`bare_readWith_write_visibleNodes`). A document
  that was read can be written (`writable_readWith`), and putting values in keeps it so
  (`writable_visibleNode`).
-/

set_option autoImplicit false

namespace LiveText

open Markup

/-! ## What a reader sees -/

mutual

/-- The strings of a node that a reader does not see; `verbatim` says that it stands in a script or in
a style sheet. Of a variable tag nothing is left. -/
def Markup.Node.hidden (verbatim : Bool) : Node → List Text
  | .text _ t => if verbatim then [t] else []
  | .comment t => [t]
  | .doctype t => [t]
  | .element name as children => if marksVariable as then [] else hidden (isVerbatim name) children

/-- The strings of nodes that a reader does not see. -/
def hidden (verbatim : Bool) : List Node → List Text
  | [] => []
  | n :: ns => n.hidden verbatim ++ hidden verbatim ns

end

namespace Snapshot

mutual

/-- A node with values in what a reader sees of it. -/
def visibleNode (s : Snapshot) (verbatim : Bool) : Node → Node
  | .text region t => if verbatim then .text region t else s.resolveString t (.text region t)
  | .comment t => .comment t
  | .doctype t => .doctype t
  | .element name as children =>
    if marksVariable as then .prose (s.valueOfTag ⟨name, as, children⟩)
    else .element name as (s.visibleNodes (isVerbatim name) children)

/-- Nodes with values in what a reader sees of them. -/
def visibleNodes (s : Snapshot) (verbatim : Bool) : List Node → List Node
  | [] => []
  | n :: ns => s.visibleNode verbatim n :: s.visibleNodes verbatim ns

end

/-- A string stays where nothing is resolved in it. A string that is changed becomes a text. -/
theorem resolveString_eq_iff (s : Snapshot) {t : Text} {n : Node}
    (h : ∀ u, .prose u = n → u = t) : s.resolveString t n = n ↔ s.resolveIn t = t := by
  rw [resolveString]
  split
  · next hfixed => exact iff_of_true rfl hfixed
  · next hfixed => exact iff_of_false (fun he => hfixed (h _ he)) hfixed

mutual

theorem resolveNode_eq_visibleNode_iff (s : Snapshot) (verbatim : Bool) :
    ∀ n : Node, s.resolveNode n = s.visibleNode verbatim n ↔
      ∀ t ∈ n.hidden verbatim, s.resolveIn t = t
  | .text region t => by
    rw [resolveNode, visibleNode, Node.hidden]
    cases verbatim with
    | false => simp
    | true =>
      simp only [if_true, List.forall_mem_singleton]
      exact s.resolveString_eq_iff fun u hu => by cases hu; rfl
  | .comment t => by
    rw [resolveNode, visibleNode, Node.hidden, List.forall_mem_singleton]
    exact s.resolveString_eq_iff fun u hu => by cases hu
  | .doctype t => by
    rw [resolveNode, visibleNode, Node.hidden, List.forall_mem_singleton]
    exact s.resolveString_eq_iff fun u hu => by cases hu
  | .element name as children => by
    rw [resolveNode, visibleNode, Node.hidden]
    by_cases has : marksVariable as
    · simp [has]
    · rw [if_neg has, if_neg has, if_neg has,
        ← resolveNodes_eq_visibleNodes_iff s (isVerbatim name) children]
      simp

/-- **Only what a reader sees is changed**, if and only if nothing is resolved in what a reader does
not see. -/
theorem resolveNodes_eq_visibleNodes_iff (s : Snapshot) (verbatim : Bool) :
    ∀ ns : List Node, s.resolveNodes ns = s.visibleNodes verbatim ns ↔
      ∀ t ∈ hidden verbatim ns, s.resolveIn t = t
  | [] => by simp [resolveNodes, visibleNodes, hidden]
  | n :: ns => by
    rw [resolveNodes, visibleNodes, hidden, List.cons_eq_cons, List.forall_mem_append,
      resolveNode_eq_visibleNode_iff s verbatim n, resolveNodes_eq_visibleNodes_iff s verbatim ns]

end

/-! ## Markup -/

theorem visibleNodes_eq_map (s : Snapshot) (verbatim : Bool) (ns : List Node) :
    s.visibleNodes verbatim ns = ns.map (s.visibleNode verbatim) := by
  induction ns with
  | nil => rfl
  | cons n ns ih => rw [visibleNodes, ih, List.map_cons]

/-- A text stays a text. -/
theorem exists_visibleNode_text (s : Snapshot) (verbatim : Bool) (region : Region) (t : Text) :
    ∃ region' t', s.visibleNode verbatim (.text region t) = .text region' t' := by
  rw [visibleNode]
  split
  · exact ⟨region, t, rfl⟩
  · rw [resolveString]
    split
    · exact ⟨region, t, rfl⟩
    · exact ⟨.prose, _, rfl⟩

theorem writable_visibleNode (s : Snapshot) {n : Node} (h : Writable n) :
    Writable (s.visibleNode false n) := by
  induction h with
  | text region t =>
    obtain ⟨region', t', ht⟩ := s.exists_visibleNode_text false region t
    rw [ht]
    exact .text region' t'
  | comment ht hstable => exact .comment ht hstable
  | doctype ht hstable => exact .doctype ht hstable
  | @element name as children htag hrule _ ih =>
    rw [visibleNode, isVerbatim_of_rule hrule, visibleNodes_eq_map]
    split
    · exact .text .prose _
    · exact .element htag hrule (List.forall_mem_map.2 ih)
  | @raw name as children htag hrule htexts hunclosed =>
    rw [visibleNode, visibleNodes_eq_map]
    split
    · exact .text .prose _
    · refine .raw htag hrule (List.forall_mem_map.2 fun n hn => ?_) fun hverbatim => ?_
      · obtain ⟨region, t, rfl⟩ := htexts n hn
        exact s.exists_visibleNode_text _ region t
      · have hsame : children.map (s.visibleNode true) = children := by
          refine (List.map_congr_left fun n hn => ?_).trans (List.map_id children)
          obtain ⟨region, t, rfl⟩ := htexts n hn
          rw [visibleNode, if_pos rfl, id]
        rw [hverbatim, hsame]
        exact hunclosed hverbatim

theorem isEmpty_visibleNodes (s : Snapshot) (verbatim : Bool) (ns : List Node) :
    (s.visibleNodes verbatim ns).isEmpty = ns.isEmpty := by
  cases ns with
  | nil => rfl
  | cons n ns => rfl

mutual

theorem marks_visibleNode (s s' : Snapshot) (verbatim : Bool) :
    ∀ n : Node, (s.visibleNode verbatim n).marks = (s'.visibleNode verbatim n).marks
  | .text region t => by
    obtain ⟨_, _, h⟩ := s.exists_visibleNode_text verbatim region t
    obtain ⟨_, _, h'⟩ := s'.exists_visibleNode_text verbatim region t
    rw [h, h', Node.marks, Node.marks]
  | .comment _ => rfl
  | .doctype _ => rfl
  | .element name as children => by
    rw [visibleNode, visibleNode]
    split
    · rfl
    · rw [marks_element_eq, marks_element_eq, isEmpty_visibleNodes, isEmpty_visibleNodes,
        nodeMarks_visibleNodes s s' (isVerbatim name) children]

/-- Values make no marks. -/
theorem nodeMarks_visibleNodes (s s' : Snapshot) (verbatim : Bool) :
    ∀ ns : List Node, nodeMarks (s.visibleNodes verbatim ns) = nodeMarks (s'.visibleNodes verbatim ns)
  | [] => rfl
  | n :: ns => by
    rw [visibleNodes, visibleNodes, nodeMarks, nodeMarks, marks_visibleNode s s' verbatim n,
      nodeMarks_visibleNodes s s' verbatim ns]

end

/-- **No value becomes markup**: when values are put into what a reader sees of a fragment and the
result is read again, it is the same but for its texts, whatever the values are. -/
theorem bare_readWith_write_visibleNodes (s s' : Snapshot) (keeps : Text → Bool) {ns : List Node}
    (h : ∀ n ∈ ns, Writable n) :
    bare (readWith keeps (write (s.visibleNodes false ns))) =
      bare (readWith keeps (write (s'.visibleNodes false ns))) := by
  have hwritable : ∀ (s : Snapshot), ∀ n ∈ s.visibleNodes false ns, Writable n := by
    intro s
    rw [visibleNodes_eq_map]
    exact List.forall_mem_map.2 fun n hn => s.writable_visibleNode (h n hn)
  rw [bare_readWith_write keeps (hwritable s), bare_readWith_write keeps (hwritable s'),
    nodeMarks_visibleNodes s s']

/-- **What resolving changes in a document**: only what a reader sees, if and only if nothing is
resolved in the strings that a reader does not see. Where nothing is resolved in them, the values
have no influence on the markup of the resolved document. -/
theorem resolveDocument_visible (s : Snapshot) (html : Text) :
    (s.resolveNodes (read html) = s.visibleNodes false (read html) ↔
      ∀ t ∈ hidden false (read html), s.resolveIn t = t) ∧
    ∀ s' : Snapshot, (∀ t ∈ hidden false (read html), s.resolveIn t = t ∧ s'.resolveIn t = t) →
      bare (read (s.resolveDocument html)) = bare (read (s'.resolveDocument html)) := by
  refine ⟨s.resolveNodes_eq_visibleNodes_iff false (read html), fun s' hfixed => ?_⟩
  have hs := (s.resolveNodes_eq_visibleNodes_iff false (read html)).2 fun t ht => (hfixed t ht).1
  have hs' := (s'.resolveNodes_eq_visibleNodes_iff false (read html)).2 fun t ht => (hfixed t ht).2
  rw [resolveDocument, resolveDocument, hs, hs']
  exact s.bare_readWith_write_visibleNodes s' keepsBlanks (writable_readWith keepsBlanks html)

/-- A value that looks like the end of a script does no harm in a paragraph and in the place of a tag,
but it is put into a script that names it as well. -/
theorem resolveDocument_visible_script :
    let hp (value : String) : Record :=
      { id := "abcd1".toList, sourceName := "npc".toList, field := "hp".toList
        value := value.toList }
    let s := Snapshot.ofRecords [hp "</script><b>x"]
    let s' := Snapshot.ofRecords [hp "1"]
    let seen := "<!-- @ --><p>@npc.hp<i identifier='@npc.hp'></i></p><script>a@b</script>".toList
    let unseen := "<script>@npc.hp</script>".toList
    (∀ t ∈ hidden false (read seen), s.resolveIn t = t ∧ s'.resolveIn t = t) ∧
      s.resolveNodes (read seen) = s.visibleNodes false (read seen) ∧
      bare (read (s.resolveDocument seen)) = bare (read (s'.resolveDocument seen)) ∧
      s.resolveNodes (read unseen) ≠ s.visibleNodes false (read unseen) := by
  intro hp s s' seen unseen
  have hseen : hidden false (read seen) = [" @ ".toList, "a@b".toList] := by decide +kernel
  have hunseen : hidden false (read unseen) = ["@npc.hp".toList] := by decide +kernel
  have hfixed : ∀ t ∈ hidden false (read seen), ∀ s : Snapshot, s.resolveIn t = t := by
    rw [hseen]
    refine List.forall_mem_cons.2 ⟨fun s => ?_, List.forall_mem_singleton.2 fun s => ?_⟩
    · exact s.resolveIn_of_tokens_chars (by decide +kernel)
    · exact s.resolveIn_of_tokens_chars (by decide +kernel)
  refine ⟨fun t ht => ⟨hfixed t ht s, hfixed t ht s'⟩,
    (s.resolveDocument_visible seen).1.2 fun t ht => hfixed t ht s,
    (s.resolveDocument_visible seen).2 s' fun t ht => ⟨hfixed t ht s, hfixed t ht s'⟩, fun h => ?_⟩
  have hkept := (s.resolveDocument_visible unseen).1.1 h "@npc.hp".toList
    (hunseen ▸ List.mem_singleton.2 rfl)
  have htokens : LiveText.tokens (separate "@npc.hp".toList) =
      [.identifier (.display "npc".toList "hp".toList none)] := by decide +kernel
  have hfound : s.resolve (.display "npc".toList "hp".toList none) = some (hp "</script><b>x") := by
    simp only [resolve, recordsBySourceField_eq]
    decide +kernel
  rw [resolveIn, htokens] at hkept
  simp only [substitute, List.flatMap_cons, List.flatMap_nil, valueFor, hfound] at hkept
  exact absurd hkept (by decide +kernel)

end Snapshot
end LiveText
