import JavaTree.Json.OfXml
import JavaTree.Proofs.Text.Blank
import JavaTree.Proofs.Xml.Layout

/-!
# Blanks between nodes do not matter for values

The value of a document does not depend on blank texts: neither a new layout nor writing and reading
the document changes it.

## Main results

* `Xml.Node.document_layout` — a document with another layout has the same value.
* `Xml.Reread.document_eq` — so has a document that has been written and read.
-/

namespace JavaTree

namespace Xml

/-- Nothing is left of a vacant text when it is trimmed. -/
lemma trim_of_isVacant {t : Option String} (h : isVacant t = true) : trim (t.getD "") = "" := by
  cases t with
  | none => exact trim_eq_empty rfl
  | some s => exact trim_eq_empty h

/-- Filling a place between nodes with blanks adds nothing to its text. -/
lemma trim_fill {blanks : List Char} (h : blanks.all isBlank = true) (t : Option String) :
    trim ((fill blanks t).getD "") = trim (t.getD "") := by
  unfold fill
  split
  · rename_i hvacant
    rw [trim_of_isVacant hvacant, Option.getD_some, trim_eq_empty]
    rwa [String.toList_ofList]
  · rfl

/-- Reading a text again adds nothing to it and takes nothing but blanks away. -/
lemma TextReread.trim_eq {t t' : Option String} (h : TextReread t t') :
    trim (t'.getD "") = trim (t.getD "") := by
  cases h with
  | kept => rw [getD_solid]
  | dropped h =>
    have hblank : (t.getD "").toList.all isBlank = true :=
      List.all_eq_true.2 fun c hc => isBlank_of_isSpace (List.all_eq_true.1 h c hc)
    rw [trim_eq_empty hblank]
    rfl

/-- An absent text contributes nothing. -/
lemma textItem_none : textItem none = [] := by
  rw [textItem, Option.getD_none, trim_eq_empty rfl]
  rfl

/-- Texts that are the same once trimmed contribute the same. -/
lemma textItem_eq {t t' : Option String} (h : trim (t'.getD "") = trim (t.getD "")) :
    textItem t' = textItem t := by
  rw [textItem, textItem, h]

namespace Node

variable {n m : Node} {ns : List Node}

/-- The name of a node does not depend on the text after it. -/
@[simp] lemma localName_withTail (n : Node) (t : Option String) :
    (n.withTail t).localName = n.localName := by
  cases n <;> rfl

/-- The text after an element does not belong to its value. -/
@[simp] lemma value_withTail (n : Node) (t : Option String) : (n.withTail t).value = n.value := by
  cases n with
  | element tag text children tail => rw [withTail, value, value]
  | comment text tail => rfl
  | instruction target text tail => rfl

/-- What a node contributes to the value of the element around it. -/
lemma childItems_cons (n : Node) (ns : List Node) :
    childItems (n :: ns) =
      (if n.isElement then (n.localName, n.value) :: textItem n.tail else []) ++ childItems ns := by
  cases n <;> simp [childItems, isElement, localName, tail]

/-! ## Layout -/

/-- A layout keeps the names of nodes. -/
@[simp] lemma localName_layout (unit : List Char) (level : Nat) (n : Node) :
    (n.layout unit level).localName = n.localName := by
  rcases n with ⟨tag, text, _ | ⟨n, ns⟩, tail⟩ | _ | _ <;> rfl

/-- A layout keeps which nodes are elements. -/
lemma any_isElement_layoutAll (unit : List Char) (level : Nat) (ns : List Node) :
    (layoutAll unit level ns).any isElement = ns.any isElement := by
  induction ns with
  | nil => rfl
  | cons n ns ih => simp [layoutAll, ih]

mutual

/-- **A new layout does not change the value of an element.** -/
theorem value_layout {unit : List Char} (h : unit.all isBlank = true) (level : Nat) :
    ∀ n : Node, (n.layout unit level).value = n.value
  | .element tag text [] tail => rfl
  | .element tag text (n :: ns) tail => by
    have htext := trim_fill (all_isBlank_lineStart h (level + 1)) text
    have hitems := childItems_layoutAll h level (n :: ns)
    have hany := any_isElement_layoutAll unit level (n :: ns)
    rw [layout, value, value, hany, htext, hitems, textItem_eq htext]
  | .comment _ _ => rfl
  | .instruction _ _ _ => rfl

/-- A new layout does not change what children contribute. -/
theorem childItems_layoutAll {unit : List Char} (h : unit.all isBlank = true) (level : Nat) :
    ∀ ns : List Node, childItems (layoutAll unit level ns) = childItems ns
  | [] => rfl
  | n :: ns => by
    have hvalue := value_layout h (level + 1) n
    have htail : ∀ after, textItem (fill (lineStart unit after) n.tail) = textItem n.tail :=
      fun after => textItem_eq (trim_fill (all_isBlank_lineStart h after) n.tail)
    rw [layoutAll, childItems_cons, childItems_cons, childItems_layoutAll h level ns]
    simp only [isElement_withTail, isElement_layout, localName_withTail, localName_layout,
      value_withTail, hvalue, tail_withTail, htail]

end

/-- **A document with another layout has the same value.** -/
theorem document_layout {unit : List Char} (h : unit.all isBlank = true) (level : Nat) (n : Node) :
    (n.layout unit level).document = n.document := by
  rw [document, document, localName_layout, value_layout h]

end Node

/-! ## Reading again -/

section

variable {around : Scope} {n m : Node} {ns ms : List Node}

/-- An element is read as an element. -/
lemma Reread.isElement_eq (h : Reread around n m) : m.isElement = n.isElement := by
  cases h <;> rfl

/-- A node is read with its name. -/
lemma Reread.localName_eq (h : Reread around n m) : m.localName = n.localName := by
  cases h with
  | element => exact Tag.part_within _ around
  | comment _ => rfl
  | instruction _ => rfl

/-- The text after a node is read as it was, up to blanks around it. -/
lemma Reread.trim_tail (h : Reread around n m) :
    trim (m.tail.getD "") = trim (n.tail.getD "") := by
  cases h with
  | element _ _ _ htail => exact htail.trim_eq
  | comment htail => exact htail.trim_eq
  | instruction htail => exact htail.trim_eq

/-- There are elements among nodes that are read if and only if there were. -/
lemma RereadAll.any_isElement (h : RereadAll around ns ms) :
    ms.any Node.isElement = ns.any Node.isElement := by
  induction ns generalizing ms with
  | nil =>
    cases h
    rfl
  | cons n ns ih =>
    cases h with
    | cons h hs => rw [List.any_cons, List.any_cons, h.isElement_eq, ih hs]

end

mutual

/-- **An element that is written and read has the same value.** -/
theorem Reread.value_eq {around : Scope} {n m : Node} (h : Reread around n m) :
    m.value = n.value := by
  cases h with
  | @element _ tag text text' tail tail' children children' htext _ hchildren htail =>
    have hitems := hchildren.childItems_eq
    have hany := hchildren.any_isElement
    rw [Node.value, Node.value, hany, hitems, htext.trim_eq, textItem_eq htext.trim_eq]
    rfl
  | comment _ => rfl
  | instruction _ => rfl

/-- Children that are written and read contribute the same. -/
theorem RereadAll.childItems_eq {around : Scope} {ns ms : List Node} (h : RereadAll around ns ms) :
    Node.childItems ms = Node.childItems ns := by
  cases h with
  | nil => rfl
  | cons h hs =>
    rw [Node.childItems_cons, Node.childItems_cons, hs.childItems_eq, h.value_eq, h.isElement_eq,
      h.localName_eq, textItem_eq h.trim_tail]

end

/-- **A document that is written and read has the same value.** -/
theorem Reread.document_eq {around : Scope} {n m : Node} (h : Reread around n m) :
    m.document = n.document := by
  rw [Node.document, Node.document, h.localName_eq, h.value_eq]

end Xml

end JavaTree
