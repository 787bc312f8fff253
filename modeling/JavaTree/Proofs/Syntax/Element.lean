import JavaTree.Json.OfXml
import JavaTree.Proofs.Syntax.Places
import JavaTree.Proofs.Xml.Char
import JavaTree.Syntax.Element

/-!
# The element of a syntax tree by places

The element of a syntax tree is compared with the description by places of the nodes that are
emitted: which node each of its elements stands for, where, and what it holds.

## Main definitions

* `Xml.Node.at?`, `Xml.Node.places`, `Xml.Node.names` — nodes of a document by their places, and the
  names of its elements, both from the beginning of the document to its end.
* `SyntaxTree.shownChildren` — the children of a node that are shown below it.
* `SyntaxTree.elementPlace` — the place of the element of a node.

## Main results

* `SyntaxTree.places_toElement` — every emitted node has one element, in the order of the source.
* `SyntaxTree.at?_toElement` — the element of a node is that of the tree below it.
* `SyntaxTree.elementPlace_dropLast` — elements lie in each other as their nodes do.
-/

namespace JavaTree

namespace Xml.Node

/-- The nodes in an element. -/
def children : Node → List Node
  | element _ _ children _ => children
  | _ => []

/-- The node at a place. -/
def at? (n : Node) : Place → Option Node
  | [] => some n
  | i :: place => n.children[i]?.bind fun c => c.at? place

mutual

/-- The places of all nodes, in the order of the document. -/
def places : Node → List Place
  | element _ _ children _ => [] :: placesFrom 0 children
  | _ => [[]]

/-- The places in a list of siblings, the first of which has a position. -/
def placesFrom (i : Nat) : List Node → List Place
  | [] => []
  | n :: ns => (places n).map (i :: ·) ++ placesFrom (i + 1) ns

end

/-- The local names of all elements, in the order of the document. -/
def names (n : Node) : List String := n.places.filterMap fun place => (n.at? place).map localName

/-- A place is followed step by step. -/
lemma at?_append (n : Node) (p q : Place) :
    n.at? (p ++ q) = (n.at? p).bind fun m => m.at? q := by
  induction p generalizing n with
  | nil => rfl
  | cons i p ih =>
    rw [List.cons_append, at?, at?]
    cases n.children[i]? with
    | none => rfl
    | some c => exact ih c

/-- The places of a node are its own and those in its children. -/
lemma places_eq (n : Node) : n.places = [] :: placesFrom 0 n.children := by
  cases n <;> rfl

end Xml.Node

namespace SyntaxTree

/-- The children of a node that are shown below it: a leaf shows none. -/
def shownChildren (f : NodeFilter) (t : SyntaxTree) : List SyntaxTree :=
  if f.isLeaf t.kind then [] else t.children.filter (shows f)

/-- The place of the element of a node: only the siblings that are shown count. -/
def elementPlace (f : NodeFilter) (t : SyntaxTree) : Place → Place
  | [] => []
  | i :: place =>
    match t.children[i]? with
    | none => []
    | some c => (t.children.take i).countP (shows f) :: c.elementPlace f place

variable {f : NodeFilter} {t c n : SyntaxTree} {i : Nat} {place : Place}

/-- A tree with shown children is not shown as a leaf, and shows those of its children that pass the
filter. -/
lemma shownChildren_of_ne_nil (h : t.shownChildren f ≠ []) :
    f.isLeaf t.kind = false ∧ t.shownChildren f = t.children.filter (shows f) := by
  unfold shownChildren at h ⊢
  split
  · rename_i hleaf
    exact absurd (if_pos hleaf) h
  · rename_i hleaf
    exact ⟨by simpa using hleaf, rfl⟩

/-- Only the root is emitted if no child is shown below it. -/
lemma emitted_of_nil (h : t.shownChildren f = []) : emitted f t = [[]] := by
  rw [emitted_eq]
  rw [shownChildren] at h
  split
  · rfl
  · rename_i hleaf
    rw [if_neg hleaf] at h
    rw [emittedFrom_eq_nil h]

/-- A tree with shown children is emitted with what is emitted of its children. -/
lemma emitted_of_ne_nil (h : t.shownChildren f ≠ []) :
    emitted f t = [] :: emittedFrom f 0 t.children := by
  rw [emitted_eq, (shownChildren_of_ne_nil h).1]
  rfl

/-! ## What an element holds -/

/-- The elements in an element are those of the children that pass the filter. -/
lemma childElements_eq (f : NodeFilter) (ts : List SyntaxTree) :
    childElements f ts = (ts.filter (shows f)).map (toElement f) := by
  induction ts with
  | nil => rfl
  | cons t ts ih =>
    rw [childElements, List.filter_cons, ih]
    split <;> rfl

/-- A node below which no child is shown is a leaf that holds its text, as documents spell it. -/
lemma toElement_of_nil (h : t.shownChildren f = []) :
    t.toElement f = .leaf t.kind (Xml.spelled t.text) := by
  obtain ⟨kind, text, named, missing, start, hasError, children⟩ := t
  rw [toElement, childElements_eq, Xml.legible_eq_spelled]
  split
  · rfl
  · rename_i hleaf
    have hchildren : children.filter (shows f) = [] := by rwa [shownChildren, if_neg hleaf] at h
    rw [hchildren]
    rfl

/-- Another node holds the elements of the children that are shown. -/
lemma toElement_of_ne_nil (h : t.shownChildren f ≠ []) :
    t.toElement f = .parent t.kind ((t.shownChildren f).map (toElement f)) := by
  obtain ⟨kind, text, named, missing, start, hasError, children⟩ := t
  rw [toElement, childElements_eq]
  split
  · rename_i hleaf
    exact absurd (if_pos hleaf) h
  · rename_i hleaf
    rw [shownChildren, if_neg hleaf] at h ⊢
    split
    · rename_i hnil
      exact absurd (List.map_eq_nil_iff.1 hnil) h
    · rfl

/-- The nodes in the element of a tree are the elements of its shown children. -/
lemma children_toElement (f : NodeFilter) (t : SyntaxTree) :
    (t.toElement f).children = (t.shownChildren f).map (toElement f) := by
  by_cases h : t.shownChildren f = []
  · rw [toElement_of_nil h, h]
    rfl
  · rw [toElement_of_ne_nil h]
    rfl

/-- The element of a tree is named by its kind. -/
lemma localName_toElement (f : NodeFilter) (t : SyntaxTree) :
    (t.toElement f).localName = t.kind := by
  by_cases h : t.shownChildren f = []
  · rw [toElement_of_nil h]
    rfl
  · rw [toElement_of_ne_nil h]
    rfl

/-- No child of a node that is emitted is emitted if and only if none is shown below it.

**Proof sketch.** A child is emitted if and only if it is one of the children that are filtered. -/
lemma shownChildren_eq_nil_iff (hn : t.at? place = some n) (h : Emitted f t place) :
    n.shownChildren f = [] ↔ ∀ i, ¬ Emitted f t (place ++ [i]) := by
  have hchild : ∀ i, Emitted f t (place ++ [i]) ↔
      f.isLeaf n.kind = false ∧ ∃ c, n.children[i]? = some c ∧ shows f c = true :=
    fun i => emitted_append_singleton hn h
  unfold shownChildren
  constructor
  · intro hnil i hi
    obtain ⟨hleaf, c, hc, hshows⟩ := (hchild i).1 hi
    have hmem : c ∈ n.children.filter (shows f) :=
      List.mem_filter.2 ⟨List.mem_of_getElem? hc, hshows⟩
    rw [hleaf, if_neg Bool.false_ne_true] at hnil
    rw [hnil] at hmem
    cases hmem
  · intro hnone
    split
    · rfl
    · rename_i hleaf
      rw [List.filter_eq_nil_iff]
      intro c hc hshows
      obtain ⟨i, hi⟩ := List.getElem?_of_mem hc
      exact hnone i ((hchild i).2 ⟨by simpa using hleaf, c, hi, hshows⟩)

/-! ## The places of elements -/

/-- The element of a child stands behind those of the children before it that are shown. -/
lemma elementPlace_cons (hc : t.children[i]? = some c) (place : Place) :
    t.elementPlace f (i :: place) =
      (t.children.take i).countP (shows f) :: c.elementPlace f place := by
  rw [elementPlace, hc]

/-- A child stands behind the children before it. -/
lemma getElem?_children {before ts : List SyntaxTree} (ht : t.children = before ++ c :: ts) :
    t.children[before.length]? = some c := by
  rw [ht, List.getElem?_append_right (Nat.le_refl _), Nat.sub_self]
  rfl

/-- The siblings before a child decide about the place of its element. -/
lemma elementPlace_of_append {before ts : List SyntaxTree} (ht : t.children = before ++ c :: ts)
    (p : Place) : t.elementPlace f (before.length :: p) =
      before.countP (shows f) :: c.elementPlace f p := by
  rw [elementPlace_cons (getElem?_children ht), ht, List.take_left]

/-- The place of an element is found step by step. -/
lemma elementPlace_append (hn : t.at? place = some n) (q : Place) :
    t.elementPlace f (place ++ q) = t.elementPlace f place ++ n.elementPlace f q := by
  induction place generalizing t with
  | nil =>
    cases hn
    rfl
  | cons i place ih =>
    obtain ⟨c, hc, hn⟩ := Option.bind_eq_some_iff.1 hn
    rw [List.cons_append, elementPlace_cons hc, elementPlace_cons hc, ih hn, List.cons_append]

/-- **Elements lie in each other as their nodes do.** -/
theorem elementPlace_dropLast (h : Emitted f t place) (hne : place ≠ []) :
    t.elementPlace f place ≠ [] ∧
      (t.elementPlace f place).dropLast = t.elementPlace f place.dropLast := by
  obtain ⟨above, i, rfl⟩ : ∃ above i, place = above ++ [i] :=
    ⟨_, _, (List.dropLast_append_getLast hne).symm⟩
  obtain ⟨n, hn⟩ := h.exists_node
  rw [at?_append] at hn
  obtain ⟨m, hm, hn⟩ := Option.bind_eq_some_iff.1 hn
  obtain ⟨c, hc, -⟩ := Option.bind_eq_some_iff.1 hn
  rw [elementPlace_append hm, elementPlace_cons hc, elementPlace, List.dropLast_concat,
    List.dropLast_concat]
  exact ⟨by simp, rfl⟩

/-- A member that passes a filter stands behind those before it that pass. -/
lemma getElem?_filter_countP {α : Type} {p : α → Bool} {as : List α} {a : α}
    (ha : as[i]? = some a) (hp : p a = true) :
    (as.filter p)[(as.take i).countP p]? = some a := by
  obtain ⟨hi, rfl⟩ := List.getElem?_eq_some_iff.1 ha
  have hsplit : as.filter p = (as.take i).filter p ++ (as[i] :: as.drop (i + 1)).filter p := by
    rw [← List.filter_append, ← List.drop_eq_getElem_cons hi, List.take_append_drop]
  rw [hsplit, List.filter_cons_of_pos hp, List.countP_eq_length_filter,
    List.getElem?_append_right (Nat.le_refl _), Nat.sub_self]
  rfl

/-- **The element of a node is that of the tree below it**, at its own place. -/
theorem at?_toElement (h : Emitted f t place) (hn : t.at? place = some n) :
    (t.toElement f).at? (t.elementPlace f place) = some (n.toElement f) := by
  induction place generalizing t with
  | nil =>
    cases hn
    rfl
  | cons i place ih =>
    obtain ⟨hleaf, c, hc, hshows, hemitted⟩ := emitted_cons.1 h
    rw [at?_cons_of_getElem? hc] at hn
    have hchild : (t.shownChildren f)[(t.children.take i).countP (shows f)]? = some c := by
      rw [shownChildren, hleaf]
      exact getElem?_filter_countP hc hshows
    rw [elementPlace_cons hc, Xml.Node.at?, children_toElement, List.getElem?_map, hchild]
    exact ih hemitted hn

/-- The places in the elements of children are those of what is emitted of them. -/
lemma placesFrom_toElement {before ts : List SyntaxTree} (ht : t.children = before ++ ts)
    (h : ∀ c ∈ ts, (c.toElement f).places = (emitted f c).map (c.elementPlace f)) :
    Xml.Node.placesFrom (before.countP (shows f)) ((ts.filter (shows f)).map (toElement f)) =
      (emittedFrom f before.length ts).map (t.elementPlace f) := by
  induction ts generalizing before with
  | nil => rfl
  | cons c ts ih =>
    have hrest := @ih (before ++ [c]) (by rw [ht]; simp) fun d hd => h d (List.mem_cons_of_mem c hd)
    rw [List.length_append, List.length_singleton] at hrest
    rw [emittedFrom, List.map_append, ← hrest, List.filter_cons]
    cases hshows : shows f c with
    | true =>
      have hplace : ∀ p, t.elementPlace f (before.length :: p) =
          before.countP (shows f) :: c.elementPlace f p := elementPlace_of_append ht
      simp [Xml.Node.placesFrom, h c List.mem_cons_self, hplace, hshows, Function.comp_def]
    | false => simp [hshows]

/-- **Every node that is emitted has one element**, and the elements come in the order of the
source. -/
theorem places_toElement (f : NodeFilter) (t : SyntaxTree) :
    (t.toElement f).places = (emitted f t).map (t.elementPlace f) := by
  induction t using induction_children with
  | node t ih =>
    have hchildren := @placesFrom_toElement f t [] t.children rfl ih
    rw [Xml.Node.places_eq, children_toElement, shownChildren, emitted_eq]
    cases f.isLeaf t.kind with
    | true => rfl
    | false => exact congrArg ([] :: ·) hchildren

/-- The names of the elements are the kinds of the nodes that are emitted. -/
theorem names_toElement (f : NodeFilter) (t : SyntaxTree) :
    (t.toElement f).names =
      (emitted f t).filterMap fun place => (t.at? place).map fun n => n.kind := by
  rw [Xml.Node.names, places_toElement, List.filterMap_map]
  refine List.filterMap_congr fun place hplace => ?_
  have h := (mem_emitted t place).1 hplace
  obtain ⟨n, hn⟩ := h.exists_node
  rw [Function.comp_apply, at?_toElement h hn, hn, Option.map_some, Option.map_some,
    localName_toElement]

end SyntaxTree

end JavaTree
