import JavaTree.Proofs.Json.Basic
import JavaTree.Proofs.Json.OfXml
import JavaTree.Proofs.Syntax.Document

/-!
# Syntax trees in JSON

The JSON of a syntax tree is made by way of XML: an element is built, written, read, and turned into
a value.  The same value is found by direct recursion on the tree.

## Main definitions

* `SyntaxTree.json` — the value of a tree by direct recursion.

## Main results

* `SyntaxTree.value_toElement` — the value of the element of a tree.
* `showTree_json_eq` — a syntax tree in JSON is its value by direct recursion as written.
-/

namespace JavaTree

namespace SyntaxTree

mutual

/-- The value of a tree: the text of a node below which no child is shown, without the blanks around
it; else an object with the values of the children that are shown under their kinds. -/
def json (f : NodeFilter) : SyntaxTree → Json
  | ⟨kind, text, _, _, _, _, children⟩ =>
    if f.isLeaf kind then .text (trim (Xml.spelled text))
    else
      match childJson f children with
      | [] => .text (trim (Xml.spelled text))
      | items => .object (Json.group items)

/-- The values of those trees of a list that are shown, under their kinds. -/
def childJson (f : NodeFilter) : List SyntaxTree → List (String × Json)
  | [] => []
  | t :: ts => if shows f t then (t.kind, json f t) :: childJson f ts else childJson f ts

end

variable {f : NodeFilter} {t : SyntaxTree}

/-- The values in a value are those of the children that pass the filter. -/
lemma childJson_eq (f : NodeFilter) (ts : List SyntaxTree) :
    childJson f ts = (ts.filter (shows f)).map fun c => (c.kind, c.json f) := by
  induction ts with
  | nil => rfl
  | cons t ts ih =>
    rw [childJson, List.filter_cons, ih]
    split <;> rfl

/-- A tree without shown children is the text of its source, trimmed. -/
lemma json_of_nil (h : t.shownChildren f = []) :
    t.json f = .text (trim (Xml.spelled t.text)) := by
  obtain ⟨kind, text, named, missing, start, hasError, children⟩ := t
  rw [json, childJson_eq]
  split
  · rfl
  · rename_i hleaf
    rw [shownChildren, if_neg hleaf] at h
    rw [h]
    rfl

/-- A tree with shown children is an object of their values, grouped by kind. -/
lemma json_of_ne_nil (h : t.shownChildren f ≠ []) :
    t.json f = .object (Json.group ((t.shownChildren f).map fun c => (c.kind, c.json f))) := by
  obtain ⟨hleaf, hshown⟩ := shownChildren_of_ne_nil h
  rw [hshown] at h ⊢
  obtain ⟨kind, text, named, missing, start, hasError, children⟩ := t
  rw [json, childJson_eq]
  split
  · rename_i hleaf'
    rw [hleaf'] at hleaf
    cases hleaf
  · split
    · rename_i hnil
      exact absurd (List.map_eq_nil_iff.1 hnil) h
    · rfl

/-- The value of a tree is a text or an object. -/
lemma isList_json (f : NodeFilter) (t : SyntaxTree) : (t.json f).isList = false := by
  by_cases h : t.shownChildren f = []
  · rw [json_of_nil h]
    rfl
  · rw [json_of_ne_nil h]
    rfl

/-- Elements of trees contribute their values under their names, and no text between them. -/
lemma childItems_toElement (ts : List SyntaxTree)
    (h : ∀ c ∈ ts, (c.toElement f).value = c.json f) :
    Xml.Node.childItems (ts.map (toElement f)) = ts.map fun c => (c.kind, c.json f) := by
  induction ts with
  | nil => rfl
  | cons c ts ih =>
    rw [List.map_cons, List.map_cons, Xml.Node.childItems_cons,
      ih fun d hd => h d (List.mem_cons_of_mem c hd), (isElement_toElement f c).1, if_pos rfl,
      localName_toElement, h c List.mem_cons_self, (isElement_toElement f c).2, Xml.textItem_none]
    rfl

/-- **The value of the element of a tree** is that of the tree by direct recursion.

**Proof sketch.** Induction on the tree. An element that holds elements has no attributes and no
text, so only its elements contribute; and since no value of a tree is a list, their values are
grouped by kinds. -/
theorem value_toElement (f : NodeFilter) (t : SyntaxTree) : (t.toElement f).value = t.json f := by
  induction t using induction_children with
  | node t ih =>
    by_cases hnil : t.shownChildren f = []
    · rw [toElement_of_nil hnil, json_of_nil hnil]
      rfl
    · have hchildren : ∀ c ∈ t.shownChildren f, (c.toElement f).value = c.json f := by
        intro c hc
        rw [(shownChildren_of_ne_nil hnil).2] at hc
        exact ih c (List.mem_filter.1 hc).1
      have hany : ((t.shownChildren f).map (toElement f)).any Xml.Node.isElement = true := by
        obtain ⟨c, cs, hcons⟩ := List.exists_cons_of_ne_nil hnil
        rw [hcons, List.map_cons, List.any_cons, (isElement_toElement f c).1, Bool.true_or]
      have hlists : ∀ item ∈ (t.shownChildren f).map (fun c => (c.kind, c.json f)),
          item.2.isList = false := by
        intro item hitem
        obtain ⟨c, -, rfl⟩ := List.mem_map.1 hitem
        exact isList_json f c
      rw [toElement_of_ne_nil hnil, json_of_ne_nil hnil, Xml.Node.parent, Xml.Node.value, hany,
        childItems_toElement _ hchildren, Xml.textItem_none, ← Json.collect_eq_group hlists]
      rfl

end SyntaxTree

/-- **A syntax tree in JSON is its value by direct recursion**, under the kind of its root, as
written with the usual indentation.

**Proof sketch.** The element of the tree is written and read again with the same value, by
`Reread.document_eq`, and the value of the element is computed by `value_toElement`. -/
theorem showTree_json_eq (f : NodeFilter) (t : SyntaxTree) (herror : t.hasError = false)
    (hnames : t.Nameable) :
    showTree f (.inl .json) t = .ok (Json.render 3 (.object [(t.kind, t.json f)])) ∧
    ∀ source, Java.parse source = t →
      parseString f (.inl .json) source = .ok (Json.render 3 (.object [(t.kind, t.json f)])) := by
  obtain ⟨raw, hraw, hreread⟩ := SyntaxTree.exists_parse?_render f hnames
  have hdocument : raw.document = .object [(t.kind, t.json f)] := by
    rw [hreread.document_eq, SyntaxTree.build_eq_toElement, Xml.Node.document,
      SyntaxTree.localName_toElement, SyntaxTree.value_toElement]
  have hjson : xmlToJson (t.build f).render =
      some (Json.render 3 (.object [(t.kind, t.json f)])) := by
    rw [xmlToJson, hraw, Option.map_some, hdocument]
    rfl
  have hshow : showTree f (.inl .json) t =
      .ok (Json.render 3 (.object [(t.kind, t.json f)])) := by
    rw [showTree, elementOfTree, herror]
    simp only [Bool.false_eq_true, ↓reduceIte, showElement, convert, Representation.show?, hjson]
    rfl
  refine ⟨hshow, fun source hsource => ?_⟩
  rw [parseString, hsource, hshow]

/-- The awkward tree in JSON: both identifiers are in one list, and blanks around texts are lost. -/
theorem showTree_json_eq_awkwardTree :
    awkwardTree.hasError = false ∧ awkwardTree.Nameable ∧
    awkwardTree.json ⟨[], ["modifiers"], ["string_literal"]⟩ = .object [
      ("line_comment", .text ""),
      ("string_literal", .text "\"]]> & <b> \r\\u0000\\ufffe\""),
      ("block", .object [("identifier", .list [.text "", .text "x"])])] ∧
    showTree ⟨[], ["modifiers"], ["string_literal"]⟩ (.inl .json) awkwardTree =
      .ok (Json.render 3 (.object [("program",
        awkwardTree.json ⟨[], ["modifiers"], ["string_literal"]⟩)])) :=
  ⟨rfl, nameable_awkwardTree, by cbv,
    (showTree_json_eq ⟨[], ["modifiers"], ["string_literal"]⟩ awkwardTree rfl
      nameable_awkwardTree).1⟩

end JavaTree
