import JavaTree.Proofs.Xml.Accepted
import JavaTree.Xml.Layout

/-!
# A laid out document is accepted

A new layout puts line feeds and spaces between nodes, which every document can hold there.  So a
document that has been accepted is accepted again with its new layout.

## Main results

* `Xml.Node.Readable.layout` — what can be written can be laid out.
* `Xml.Node.exists_parse?_format` — a laid out document is accepted.
-/

namespace JavaTree.Xml

namespace Node

/-- The text after a node does not matter for whether it is an element. -/
@[simp] lemma isElement_withTail (n : Node) (t : Option String) :
    (n.withTail t).isElement = n.isElement := by
  cases n <;> rfl

/-- The text after a node is the one that was put there. -/
@[simp] lemma tail_withTail (n : Node) (t : Option String) : (n.withTail t).tail = t := by
  cases n <;> rfl

/-- A layout keeps whether a node is an element. -/
@[simp] lemma isElement_layout (unit : List Char) (level : Nat) (n : Node) :
    (n.layout unit level).isElement = n.isElement := by
  rcases n with ⟨tag, text, _ | ⟨n, ns⟩, tail⟩ | _ | _ <;> rfl

/-- A layout keeps the text after the node as a whole. -/
@[simp] lemma tail_layout (unit : List Char) (level : Nat) (n : Node) :
    (n.layout unit level).tail = n.tail := by
  rcases n with ⟨tag, text, _ | ⟨n, ns⟩, tail⟩ | _ | _ <;> rfl

end Node

/-- What is white space in markup is blank. -/
lemma isBlank_of_isSpace {c : Char} (h : isSpace c = true) : isBlank c = true := by
  have hall : [' ', '\t', '\n', '\r'].all isBlank = true := by decide +kernel
  refine List.all_eq_true.1 hall c ?_
  simpa [isSpace, or_assoc] using h

/-- A line begins with blanks if the indentation is blank. -/
lemma all_isBlank_lineStart {unit : List Char} (h : unit.all isBlank = true) (level : Nat) :
    (lineStart unit level).all isBlank = true := by
  have hfeed : isBlank '\n' = true := isBlank_of_isSpace rfl
  rw [lineStart, List.all_cons, hfeed, Bool.true_and, List.all_flatten, List.all_replicate]
  split
  · rfl
  · exact h

/-- A line begins with characters that a document can hold. -/
lemma allChars_lineStart {unit : List Char} (h : AllChars unit) (level : Nat) :
    AllChars (lineStart unit level) := by
  have hunits : AllChars (List.replicate level unit).flatten := by
    intro c hc
    obtain ⟨cs, hcs, hmem⟩ := List.mem_flatten.1 hc
    rw [List.eq_of_mem_replicate hcs] at hmem
    exact h c hmem
  exact hunits.cons (by decide)

/-- A text that is filled with blanks can be written. -/
lemma validText_fill {blanks : List Char} (h : AllChars blanks) {t : Option String}
    (ht : ValidText t) : ValidText (fill blanks t) := by
  unfold fill
  split
  · intro c hc
    rw [Option.getD_some, String.toList_ofList] at hc
    exact h c hc
  · exact ht

mutual

/-- **What can be written can be laid out**, where the same namespaces are in force. -/
theorem Node.Readable.layout {around : Scope} {unit : List Char} (hunit : AllChars unit)
    (level : Nat) : ∀ {n : Node}, n.Readable around → (n.layout unit level).Readable around
  | .element _ _ [] _, h => h
  | .element _ _ (_ :: _) _, ⟨htag, htext, hchildren, htail⟩ =>
    ⟨htag, validText_fill (allChars_lineStart hunit _) htext,
      Node.AllReadable.layoutAll hunit level hchildren, htail⟩
  | .comment _ _, h => h
  | .instruction _ _ _, h => h

/-- A layout keeps nodes in a row readable. -/
theorem Node.AllReadable.layoutAll {around : Scope} {unit : List Char} (hunit : AllChars unit)
    (level : Nat) : ∀ {ns : List Node}, Node.AllReadable around ns →
      Node.AllReadable around (Node.layoutAll unit level ns)
  | [], _ => trivial
  | _ :: _, ⟨hn, hns⟩ =>
    ⟨(hn.layout hunit (level + 1)).withTail
        (validText_fill (allChars_lineStart hunit _) hn.validText_tail),
      hns.layoutAll hunit level⟩

end

/-- The indentation is blank. -/
lemma all_isBlank_indentation (indent : Int) : (indentation indent).all isBlank = true := by
  have hspace : isBlank ' ' = true := isBlank_of_isSpace rfl
  rw [indentation, List.all_replicate, hspace, ite_self]

/-- The indentation is made of characters that a document can hold. -/
lemma allChars_indentation (indent : Int) : AllChars (indentation indent) := by
  intro c hc
  rw [List.eq_of_mem_replicate hc]
  decide

/-- **A laid out document is accepted**, and read as it was laid out. -/
theorem Node.exists_parse?_format {n : Node} (hn : n.Readable []) (he : n.isElement = true)
    (ht : n.tail = none) (indent : Int) :
    ∃ m, parse? (n.format indent) = some m ∧ Reread [] (n.layout (indentation indent) 0) m := by
  have hlayout := hn.layout (allChars_indentation indent) 0
  have he' : (n.layout (indentation indent) 0).isElement = true := by
    rw [isElement_layout, he]
  have ht' : (n.layout (indentation indent) 0).tail = none := by
    rw [tail_layout, ht]
  exact exists_parse?_render hlayout he' ht'

end JavaTree.Xml
