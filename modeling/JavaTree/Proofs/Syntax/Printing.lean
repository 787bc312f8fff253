import JavaTree.Proofs.Syntax.Document

/-!
# Syntax trees in XML are printed in one pass

The XML of a syntax tree is made in several passes: an element is built, written, read, laid out,
and written again.  The same text comes out if the nodes that are shown are printed directly, each
at its depth.

## Main definitions

* `Xml.printText` — an element that holds a text, as printed.
* `SyntaxTree.print` — a tree as printed at a depth.

## Main results

* `Xml.Node.writeAll_layoutAll` — the children of an element are laid out one on a line.
* `SyntaxTree.write_layout_of_reread` — the element of a tree is printed, once it has been written,
  read and laid out.
* `showTree_xml_eq_print` — a syntax tree in XML is the tree as printed.
-/

namespace JavaTree

namespace Xml

/-- An element that holds a text, as printed: an empty tag if there is no character in the text. -/
def printText (name text : String) : List Char :=
  if text == "" then '<' :: name.toList ++ "/>".toList
  else '<' :: name.toList ++ '>' :: escapeText text ++ "</".toList ++ name.toList ++ ['>']

/-- A line break and as many blanks as three for each level of a depth. -/
def printBreak (depth : Nat) : List Char := '\n' :: List.replicate (3 * depth) ' '

/-! ## Layout of elements without text -/

/-- The layout begins lines as the printer does. -/
lemma lineStart_defaultIndent (depth : Nat) :
    lineStart (indentation defaultIndent) depth = printBreak depth := by
  have hunit : indentation defaultIndent = List.replicate 3 ' ' := rfl
  rw [lineStart, hunit, List.flatten_replicate_replicate, Nat.mul_comm, printBreak]

/-- Blanks take the place of an absent text. -/
lemma fill_none (blanks : List Char) : fill blanks none = some (String.ofList blanks) := rfl

/-- Blanks are written as they are. -/
lemma writeText_printBreak (depth : Nat) :
    writeText (some (String.ofList (printBreak depth))) = printBreak depth := by
  have hall : ∀ c ∈ printBreak depth, escapeTextChar c = [c] := by
    intro c hc
    rcases List.mem_cons.1 hc with rfl | hc
    · rfl
    · obtain rfl := List.eq_of_mem_replicate hc
      rfl
  rw [writeText, escapeText, String.toList_ofList, List.flatMap_congr hall,
    List.flatMap_singleton']

namespace Node

variable {n : Node} {ns : List Node}

/-- A node that nothing follows is written with the blanks that are put after it. -/
lemma write_withTail_fill (h : n.tail = none) (depth : Nat) :
    (n.withTail (fill (printBreak depth) none)).write = n.write ++ printBreak depth := by
  have hself : ∀ t, (n.withTail t).withTail none = n := by
    intro t
    cases n <;> simp_all [tail, withTail]
  rw [write_eq, tail_withTail, hself, fill_none, writeText_printBreak]

/-- **The children of an element are laid out one on a line**, if no text is between them.

**Proof sketch.** Induction on the children: each but the last one is followed by the break before
the next one, and the last one by that of the closing tag. -/
lemma writeAll_layoutAll (depth : Nat) (hne : ns ≠ []) (htails : ∀ n ∈ ns, n.tail = none) :
    printBreak (depth + 1) ++ writeAll (layoutAll (indentation defaultIndent) depth ns) =
      (ns.flatMap fun n =>
        printBreak (depth + 1) ++ (n.layout (indentation defaultIndent) (depth + 1)).write) ++
      printBreak depth := by
  induction ns with
  | nil => exact absurd rfl hne
  | cons n ns ih =>
    obtain ⟨hn, hns⟩ := List.forall_mem_cons.1 htails
    have htail : (n.layout (indentation defaultIndent) (depth + 1)).tail = none := by
      rw [tail_layout, hn]
    rw [layoutAll, writeAll, hn, lineStart_defaultIndent, write_withTail_fill htail,
      List.flatMap_cons]
    cases ns with
    | nil => simp [layoutAll, writeAll]
    | cons m ms =>
      have hrest := ih (List.cons_ne_nil m ms) hns
      simp only [List.isEmpty_cons, Bool.false_eq_true, ↓reduceIte, List.append_assoc]
      rw [hrest]

/-- An element that holds no text is laid out with each of its children on a line of its own.

**Proof sketch.** The layout puts the first break in place of the text of the element, and the other
ones as `writeAll_layoutAll` says. -/
lemma write_layout_element (name : String) (depth : Nat) (hne : ns ≠ [])
    (htails : ∀ n ∈ ns, n.tail = none) :
    ((element ⟨{ part := name }, [], []⟩ none ns none).layout (indentation defaultIndent)
        depth).write =
      '<' :: name.toList ++ '>' ::
        (ns.flatMap fun n =>
          printBreak (depth + 1) ++ (n.layout (indentation defaultIndent) (depth + 1)).write) ++
        printBreak depth ++ "</".toList ++ name.toList ++ ['>'] := by
  have hchildren := writeAll_layoutAll depth hne htails
  obtain ⟨n, ns, rfl⟩ := List.exists_cons_of_ne_nil hne
  have hwrite : ∀ text ms, (element ⟨{ part := name }, [], []⟩ (some text) ms none).write =
      '<' :: name.toList ++ '>' :: (writeText (some text) ++ writeAll ms) ++ "</".toList ++
        name.toList ++ ['>'] := by
    intro text ms
    simp [write, Tag.write, Name.written, writeText]
  rw [layout, lineStart_defaultIndent, fill_none, hwrite, writeText_printBreak, hchildren]
  simp only [List.append_assoc, List.cons_append]

end Node

end Xml

namespace SyntaxTree

/-! ## Printing -/

mutual

/-- A tree as printed at a depth: its text, or its children that are shown, each on a line of its
own. -/
def print (f : NodeFilter) (depth : Nat) : SyntaxTree → List Char
  | ⟨kind, text, _, _, _, _, children⟩ =>
    if f.isLeaf kind then Xml.printText kind (Xml.spelled text)
    else
      match printChildren f (depth + 1) children with
      | [] => Xml.printText kind (Xml.spelled text)
      | lines =>
        '<' :: kind.toList ++ '>' :: lines ++ Xml.printBreak depth ++ "</".toList ++ kind.toList ++
          ['>']

/-- Those trees of a list that are shown, each on a line of its own at a depth. -/
def printChildren (f : NodeFilter) (depth : Nat) : List SyntaxTree → List Char
  | [] => []
  | t :: ts =>
    if shows f t then Xml.printBreak depth ++ print f depth t ++ printChildren f depth ts
    else printChildren f depth ts

end

variable {f : NodeFilter} {t : SyntaxTree} {m : Xml.Node}

/-- The printed children are those that pass the filter, each on a line of its own. -/
lemma printChildren_eq (f : NodeFilter) (depth : Nat) (ts : List SyntaxTree) :
    printChildren f depth ts =
      (ts.filter (shows f)).flatMap fun c => Xml.printBreak depth ++ c.print f depth := by
  induction ts with
  | nil => rfl
  | cons t ts ih =>
    rw [printChildren, List.filter_cons, ih]
    split <;> rfl

/-- A tree without shown children is printed with its text. -/
lemma print_of_nil (h : t.shownChildren f = []) (depth : Nat) :
    t.print f depth = Xml.printText t.kind (Xml.spelled t.text) := by
  obtain ⟨kind, text, named, missing, start, hasError, children⟩ := t
  rw [print, printChildren_eq]
  split
  · rfl
  · rename_i hleaf
    rw [shownChildren, if_neg hleaf] at h
    rw [h]
    rfl

/-- A tree with shown children is printed with their lines between its tags. -/
lemma print_of_ne_nil (h : t.shownChildren f ≠ []) (depth : Nat) :
    t.print f depth =
      '<' :: t.kind.toList ++ '>' ::
        ((t.shownChildren f).flatMap fun c =>
          Xml.printBreak (depth + 1) ++ c.print f (depth + 1)) ++
        Xml.printBreak depth ++ "</".toList ++ t.kind.toList ++ ['>'] := by
  obtain ⟨hleaf, hshown⟩ := shownChildren_of_ne_nil h
  rw [hshown] at h ⊢
  obtain ⟨kind, text, named, missing, start, hasError, children⟩ := t
  rw [print, printChildren_eq, if_neg (by simpa using hleaf)]
  obtain ⟨c, cs, hcons⟩ := List.exists_cons_of_ne_nil h
  simp only at hcons
  rw [hcons]
  rfl

end SyntaxTree

/-! ## Reading what has been written -/

namespace Xml

variable {name : String} {n m : Node}

/-- Nothing follows a node that nothing followed when it was written. -/
lemma Reread.tail_eq_none (h : Reread [] n m) (hn : n.tail = none) : m.tail = none := by
  have hnone : ∀ t t' : Option String, TextReread t t' → t = none → t' = none := by
    rintro t t' (_ | _) rfl
    · rfl
    · rfl
  cases h with
  | element _ _ _ htail => exact hnone _ _ htail hn
  | comment htail => exact hnone _ _ htail hn
  | instruction htail => exact hnone _ _ htail hn

/-- An element that holds a text is read with its text, which is absent if it was empty. -/
lemma Reread.of_leaf {text : String} (h : Reread [] (.leaf name text) m) :
    m = .element ⟨{ part := name }, [], []⟩ (solid (some text)) [] none := by
  have htail : m.tail = none := h.tail_eq_none rfl
  cases h with
  | element _ hleaf hchildren _ =>
    obtain rfl : _ = none := htail
    cases hchildren
    rw [hleaf rfl]
    rfl

/-- An element without text is read as one. -/
lemma Reread.of_parent {ns : List Node} (h : Reread [] (.parent name ns) m) :
    ∃ ms, RereadAll [] ns ms ∧ m = .element ⟨{ part := name }, [], []⟩ none ms none := by
  have htail : m.tail = none := h.tail_eq_none rfl
  cases h with
  | element htext _ hchildren _ =>
    obtain rfl : _ = none := htail
    refine ⟨_, hchildren, ?_⟩
    cases htext <;> rfl

/-- An element that holds a text is printed once it has been read. -/
lemma write_solid (name text : String) :
    (Node.element ⟨{ part := name }, [], []⟩ (solid (some text)) [] none).write =
      printText name text := by
  by_cases h : text = ""
  · subst h
    simp [solid, Node.write, printText, Tag.write, Name.written, writeText]
  · have hsolid : solid (some text) = some text := by simp [solid, h]
    rw [hsolid]
    simp [h, Node.write, Node.writeAll, printText, Tag.write, Name.written, writeText]

end Xml

namespace SyntaxTree

variable {f : NodeFilter} {t : SyntaxTree}

/-- Elements of trees are printed one after the other, each on a line of its own. -/
lemma flatMap_of_rereadAll {cs : List SyntaxTree} {ms : List Xml.Node} {depth : Nat}
    (h : ∀ c ∈ cs, ∀ m, Xml.Reread [] (c.toElement f) m →
      (m.layout (indentation defaultIndent) depth).write = c.print f depth)
    (hms : Xml.RereadAll [] (cs.map (toElement f)) ms) :
    (∀ m ∈ ms, m.tail = none) ∧
    (ms.flatMap fun m => Xml.printBreak depth ++
        (m.layout (indentation defaultIndent) depth).write) =
      cs.flatMap fun c => Xml.printBreak depth ++ c.print f depth := by
  induction cs generalizing ms with
  | nil =>
    cases hms
    exact ⟨List.forall_mem_nil _, rfl⟩
  | cons c cs ih =>
    cases hms with
    | cons hm hms =>
      obtain ⟨htails, hlines⟩ := ih (fun d hd => h d (List.mem_cons_of_mem c hd)) hms
      have htail := hm.tail_eq_none (isElement_toElement f c).2
      refine ⟨List.forall_mem_cons.2 ⟨htail, htails⟩, ?_⟩
      rw [List.flatMap_cons, List.flatMap_cons, hlines, h c List.mem_cons_self _ hm]

/-- **The element of a tree is printed**, once it has been written, read and laid out.

**Proof sketch.** Induction on the tree. Where no child is shown, the element holds a text, which is
read as it was; else it holds no text, and the layout puts each of its children on a line of its
own. -/
theorem write_layout_of_reread (f : NodeFilter) (t : SyntaxTree) (depth : Nat) (m : Xml.Node)
    (h : Xml.Reread [] (t.toElement f) m) :
    (m.layout (indentation defaultIndent) depth).write = t.print f depth := by
  induction t using induction_children generalizing depth m with
  | node t ih =>
    by_cases hnil : t.shownChildren f = []
    · rw [toElement_of_nil hnil] at h
      rw [print_of_nil hnil, h.of_leaf]
      exact Xml.write_solid t.kind (Xml.spelled t.text)
    · rw [toElement_of_ne_nil hnil] at h
      obtain ⟨ms, hms, rfl⟩ := h.of_parent
      have hchildren : ∀ c ∈ t.shownChildren f, ∀ m, Xml.Reread [] (c.toElement f) m →
          (m.layout (indentation defaultIndent) (depth + 1)).write = c.print f (depth + 1) := by
        intro c hc m hm
        rw [(shownChildren_of_ne_nil hnil).2] at hc
        exact ih c (List.mem_filter.1 hc).1 (depth + 1) m hm
      obtain ⟨htails, hlines⟩ := flatMap_of_rereadAll hchildren hms
      have hne : ms ≠ [] := by
        rintro rfl
        obtain ⟨c, cs, hcons⟩ := List.exists_cons_of_ne_nil hnil
        rw [hcons] at hms
        cases hms
      rw [print_of_ne_nil hnil, Xml.Node.write_layout_element t.kind depth hne htails, hlines]

end SyntaxTree

/-- **A syntax tree in XML is the tree as printed**: the nodes that are shown, each at its depth,
and nothing else.

**Proof sketch.** The element of the tree is written and read, laid out and written again. -/
theorem showTree_xml_eq_print (f : NodeFilter) (t : SyntaxTree) (herror : t.hasError = false)
    (hnames : t.Nameable) :
    showTree f (.inl .xml) t = .ok (String.ofList (t.print f 0)) ∧
    ∀ source, Java.parse source = t →
      parseString f (.inl .xml) source = .ok (String.ofList (t.print f 0)) := by
  obtain ⟨raw, hraw, hreread⟩ := SyntaxTree.exists_parse?_render f hnames
  rw [SyntaxTree.build_eq_toElement] at hreread
  have hprint := SyntaxTree.write_layout_of_reread f t 0 raw hreread
  have hformat : formatXml (t.build f).render = some (String.ofList (t.print f 0)) := by
    rw [formatXml, hraw, Option.map_some, Xml.Node.format, Xml.Node.render, hprint]
  have hshow : showTree f (.inl .xml) t = .ok (String.ofList (t.print f 0)) := by
    rw [showTree, elementOfTree, herror]
    simp only [Bool.false_eq_true, ↓reduceIte, showElement, convert, Representation.show?, hformat]
    rfl
  refine ⟨hshow, fun source hsource => ?_⟩
  rw [parseString, hsource, hshow]

/-- The awkward tree as printed: the blanks of its texts are kept, and none are added to them. -/
theorem showTree_xml_eq_print_awkwardTree :
    awkwardTree.hasError = false ∧ awkwardTree.Nameable ∧
    showTree ⟨[], ["modifiers"], ["string_literal"]⟩ (.inl .xml) awkwardTree =
      .ok (String.ofList (awkwardTree.print ⟨[], ["modifiers"], ["string_literal"]⟩ 0)) ∧
    String.ofList (awkwardTree.print ⟨[], ["modifiers"], ["string_literal"]⟩ 0) =
      "<program>\n   <line_comment> \t&#13;\n</line_comment>\n" ++
      "   <string_literal>\"]]&gt; &amp; &lt;b&gt; &#13;\\u0000\\ufffe\"</string_literal>\n" ++
      "   <block>\n      <identifier/>\n      <identifier> x </identifier>\n   </block>\n" ++
      "</program>" :=
  ⟨rfl, nameable_awkwardTree,
    (showTree_xml_eq_print ⟨[], ["modifiers"], ["string_literal"]⟩ awkwardTree rfl
      nameable_awkwardTree).1, by decide +kernel⟩

end JavaTree
