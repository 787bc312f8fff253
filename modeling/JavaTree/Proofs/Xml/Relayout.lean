import Mathlib.Data.List.Basic
import JavaTree.Proofs.Xml.Layout

/-!
# A new layout in the place of the old one

A layout sets the blanks between nodes and nothing else.  So documents that differ in these blanks
only have the same layout; and a document that is laid out, written and read again differs from what
it was in these blanks, and in two more things that writing does not tell apart: an empty text from
an absent one, where an element holds no nodes, and the namespace of an element without prefix from
the default namespace around it.

## Main definitions

* `Xml.Node.unspaced` — a node without the blanks between the nodes in it.
* `Xml.Node.remake` — a node with other tags, and other texts where there are no nodes.
* `Xml.Node.settled`, `Xml.Node.compact` — a node whose elements without prefix are in the default
  namespace around them; a node without empty texts.
* `Xml.Node.elementNames` — the names of all elements.

## Main results

* `Xml.Node.layout_unspaced`, `Xml.Node.unspaced_layout` — a layout sets blanks between nodes only,
  and all of them.
* `Xml.Reread.unspaced_eq` — what is left of a node that is written and read.
* `Xml.Node.format_compact_settled` — the namespaces of elements are not laid out.
* `Xml.Node.compact_eq_of_format_eq` — empty texts are.
-/

namespace JavaTree.Xml

/-! ## Nodes without blanks between them -/

/-- A text between nodes, unless it is vacant. -/
def unblank (t : Option String) : Option String := if isVacant t then none else t

namespace Node

mutual

/-- A node without the blanks between the nodes in it. The text of an element without nodes is left
as it is, and so is the text after the node itself. -/
def unspaced : Node → Node
  | element tag text [] tail => element tag text [] tail
  | element tag text (n :: ns) tail => element tag (unblank text) (unspacedAll (n :: ns)) tail
  | n => n

/-- Nodes in an element without the blanks after and in them. -/
def unspacedAll : List Node → List Node
  | [] => []
  | n :: ns => (unspaced n).withTail (unblank n.tail) :: unspacedAll ns

end

end Node

/-- Blanks take the place of a vacant text as they do that of an absent one. -/
lemma fill_unblank (blanks : List Char) (t : Option String) :
    fill blanks (unblank t) = fill blanks t := by
  by_cases h : isVacant t = true
  · rw [unblank, fill, fill, if_pos h, if_pos h]
    rfl
  · rw [unblank, if_neg h]

/-- A vacant text is left out. -/
lemma unblank_of_isVacant {t : Option String} (h : isVacant t = true) : unblank t = none := if_pos h

/-- Blanks that are filled in are left out again. -/
lemma unblank_fill {blanks : List Char} (h : blanks.all isBlank = true) (t : Option String) :
    unblank (fill blanks t) = unblank t := by
  unfold fill
  split
  · rename_i hvacant
    rw [unblank_of_isVacant hvacant, unblank_of_isVacant]
    rwa [isVacant, String.toList_ofList]
  · rfl

namespace Node

/-- The last text that is put after a node is the one there. -/
@[simp] lemma withTail_withTail (n : Node) (t t' : Option String) :
    (n.withTail t).withTail t' = n.withTail t' := by
  cases n <;> rfl

/-- A node is left as it is with the text after it put there again. -/
@[simp] lemma withTail_tail (n : Node) : n.withTail n.tail = n := by
  cases n <;> rfl

/-- The text after a node has no part in the layout of it. -/
@[simp] lemma layout_withTail (unit : List Char) (level : Nat) (n : Node) (t : Option String) :
    (n.withTail t).layout unit level = (n.layout unit level).withTail t := by
  rcases n with ⟨tag, text, _ | ⟨n, ns⟩, tail⟩ | _ | _ <;> rfl

/-- The text after a node has no part in the blanks in it. -/
@[simp] lemma unspaced_withTail (n : Node) (t : Option String) :
    (n.withTail t).unspaced = n.unspaced.withTail t := by
  rcases n with ⟨tag, text, _ | ⟨n, ns⟩, tail⟩ | _ | _ <;> rfl

/-- The text after a node is kept when the blanks in it are left out. -/
@[simp] lemma tail_unspaced (n : Node) : n.unspaced.tail = n.tail := by
  rcases n with ⟨tag, text, _ | ⟨n, ns⟩, tail⟩ | _ | _ <;> rfl

/-- No nodes are left out with the blanks. -/
lemma isEmpty_unspacedAll (ns : List Node) : (unspacedAll ns).isEmpty = ns.isEmpty := by
  cases ns <;> rfl

mutual

/-- **A layout does not depend on the blanks between nodes** that were there before. -/
theorem layout_unspaced (unit : List Char) (level : Nat) :
    ∀ n : Node, n.unspaced.layout unit level = n.layout unit level
  | element _ _ [] _ => rfl
  | element tag text (n :: ns) tail => by
    have hall := layoutAll_unspacedAll unit level (n :: ns)
    rw [unspacedAll] at hall
    rw [unspaced, unspacedAll, layout, fill_unblank, hall, layout]
  | comment _ _ => rfl
  | instruction _ _ _ => rfl

/-- Nodes in a row are laid out as they are without the blanks after and in them. -/
theorem layoutAll_unspacedAll (unit : List Char) (level : Nat) :
    ∀ ns : List Node, layoutAll unit level (unspacedAll ns) = layoutAll unit level ns
  | [] => rfl
  | n :: ns => by
    rw [unspacedAll, layoutAll, layoutAll, layoutAll_unspacedAll unit level ns, layout_withTail,
      layout_unspaced unit (level + 1) n, isEmpty_unspacedAll, tail_withTail, withTail_withTail,
      fill_unblank]

end

mutual

/-- **A layout sets blanks between nodes only.** -/
theorem unspaced_layout {unit : List Char} (h : unit.all isBlank = true) (level : Nat) :
    ∀ n : Node, (n.layout unit level).unspaced = n.unspaced
  | element _ _ [] _ => rfl
  | element tag text (n :: ns) tail => by
    have hall := unspacedAll_layoutAll h level (n :: ns)
    rw [layoutAll] at hall
    rw [layout, layoutAll, unspaced, hall, unblank_fill (all_isBlank_lineStart h _), unspaced]
  | comment _ _ => rfl
  | instruction _ _ _ => rfl

/-- Nodes in a row are left as they were before a layout when blanks are left out. -/
theorem unspacedAll_layoutAll {unit : List Char} (h : unit.all isBlank = true) (level : Nat) :
    ∀ ns : List Node, unspacedAll (layoutAll unit level ns) = unspacedAll ns
  | [] => rfl
  | n :: ns => by
    rw [layoutAll, unspacedAll, unspacedAll, unspacedAll_layoutAll h level ns, unspaced_withTail,
      unspaced_layout h (level + 1) n, tail_withTail, withTail_withTail,
      unblank_fill (all_isBlank_lineStart h _)]

end

/-- Nodes that differ in the blanks between the nodes in them only have the same layout. -/
lemma format_eq_of_unspaced_eq {n m : Node} (h : n.unspaced = m.unspaced) (indent : Int) :
    n.format indent = m.format indent := by
  rw [format, format, ← layout_unspaced, h, layout_unspaced]

/-! ## Other tags and texts -/

mutual

/-- A node with other tags, which may depend on the namespaces in force around them, and with other
texts in the elements without nodes. -/
def remake (retag : Scope → Tag → Tag) (retext : Option String → Option String) (around : Scope) :
    Node → Node
  | element tag text [] tail => element (retag around tag) (retext text) [] tail
  | element tag text (n :: ns) tail =>
    element (retag around tag) text (remakeAll retag retext (tag.scope around) (n :: ns)) tail
  | n => n

/-- Nodes with other tags and texts. -/
def remakeAll (retag : Scope → Tag → Tag) (retext : Option String → Option String)
    (around : Scope) : List Node → List Node
  | [] => []
  | n :: ns => remake retag retext around n :: remakeAll retag retext around ns

end

end Node

/-- The namespace of elements without prefix, where some namespaces are in force. -/
def defaultSpace (scope : Scope) : Option String := (scope.lookup "").filter (· != "")

/-- A tag whose name is in the default namespace if it has no prefix. -/
def Tag.settled (around : Scope) (t : Tag) : Tag :=
  if t.name.label == "" then
    { t with name := { t.name with space := defaultSpace (t.scope around) } }
  else t

namespace Node

/-- A node whose elements without prefix are in the default namespace that is in force there. -/
def settled (around : Scope) (n : Node) : Node := n.remake Tag.settled id around

/-- A node in which an empty text of an element without nodes counts as absent. -/
def compact (n : Node) : Node := n.remake (fun _ tag => tag) solid []

section

variable {retag retag' : Scope → Tag → Tag} {retext retext' : Option String → Option String}

/-- The text after a node as a whole is not remade. -/
@[simp] lemma tail_remake (around : Scope) (n : Node) :
    (n.remake retag retext around).tail = n.tail := by
  rcases n with ⟨tag, text, _ | ⟨n, ns⟩, tail⟩ | _ | _ <;> rfl

/-- The text after a node has no part in what it is remade to. -/
@[simp] lemma remake_withTail (around : Scope) (n : Node) (t : Option String) :
    (n.withTail t).remake retag retext around = (n.remake retag retext around).withTail t := by
  rcases n with ⟨tag, text, _ | ⟨n, ns⟩, tail⟩ | _ | _ <;> rfl

/-- Remaking leaves out no nodes. -/
lemma isEmpty_remakeAll (around : Scope) (ns : List Node) :
    (remakeAll retag retext around ns).isEmpty = ns.isEmpty := by
  cases ns <;> rfl

mutual

/-- Tags and texts can be changed before or after a layout. -/
lemma remake_layout (unit : List Char) (level : Nat) (around : Scope) :
    ∀ n : Node, (n.layout unit level).remake retag retext around =
      (n.remake retag retext around).layout unit level
  | element _ _ [] _ => rfl
  | element tag text (n :: ns) tail => by
    have hall := remakeAll_layoutAll unit level (tag.scope around) (n :: ns)
    rw [layoutAll] at hall
    rw [layout, layoutAll, remake, hall, remake, remakeAll, layout]
  | comment _ _ => rfl
  | instruction _ _ _ => rfl

/-- Nodes in a row are laid out before or after they are remade. -/
lemma remakeAll_layoutAll (unit : List Char) (level : Nat) (around : Scope) :
    ∀ ns : List Node, remakeAll retag retext around (layoutAll unit level ns) =
      layoutAll unit level (remakeAll retag retext around ns)
  | [] => rfl
  | n :: ns => by
    rw [layoutAll, remakeAll, remakeAll, layoutAll, remakeAll_layoutAll unit level around ns,
      remake_withTail, remake_layout unit (level + 1) around n, isEmpty_remakeAll, tail_remake]

end

mutual

/-- Texts can be changed after tags and texts have been changed. -/
lemma remake_remake (around around' : Scope) :
    ∀ n : Node, (n.remake retag retext around).remake (fun _ tag => tag) retext' around' =
      n.remake retag (retext' ∘ retext) around
  | element _ _ [] _ => rfl
  | element tag text (n :: ns) tail => by
    have hall := remakeAll_remakeAll (tag.scope around) ((retag around tag).scope around') (n :: ns)
    rw [remakeAll] at hall
    rw [remake, remakeAll, remake, hall, remake]
  | comment _ _ => rfl
  | instruction _ _ _ => rfl

/-- The texts of nodes in a row are remade by two changes at once or one after the other. -/
lemma remakeAll_remakeAll (around around' : Scope) :
    ∀ ns : List Node,
      remakeAll (fun _ tag => tag) retext' around' (remakeAll retag retext around ns) =
        remakeAll retag (retext' ∘ retext) around ns
  | [] => rfl
  | n :: ns => by
    rw [remakeAll, remakeAll, remakeAll, remake_remake around around' n,
      remakeAll_remakeAll around around' ns]

end

/-- A node is settled and its empty texts are left out at once. -/
lemma compact_settled (around : Scope) (n : Node) :
    (n.settled around).compact = n.remake Tag.settled solid around :=
  remake_remake around [] n

end

end Node

/-! ## Writing and reading -/

/-- A tag is settled under the name that is written. -/
lemma Tag.written_settled (t : Tag) (around : Scope) :
    (t.settled around).name.written = t.name.written := by
  unfold settled
  split <;> rfl

/-- A tag that is settled is written as before. -/
lemma Tag.write_settled (t : Tag) (around : Scope) : (t.settled around).write = t.write := by
  unfold settled
  split <;> rfl

/-- A name without prefix is resolved to the default namespace. -/
lemma resolveName?_of_noLabel {w : Written} (h : w.label = "") (scope : Scope) :
    resolveName? scope true w = some ⟨defaultSpace scope, "", w.part⟩ := by
  rw [resolveName?, defaultSpace, if_pos (beq_iff_eq.2 h)]
  cases scope.lookup "" with
  | none => simp
  | some uri => by_cases huri : uri = "" <;> simp [huri, Option.filter_some]

/-- A tag that can be written is read with the default namespace around it, if it has no prefix. -/
lemma Tag.within_eq_settled {t : Tag} {around : Scope} (h : t.Readable around) :
    t.within around = t.settled around := by
  unfold within settled
  by_cases hlabel : t.name.label = ""
  · rw [if_pos (beq_iff_eq.2 hlabel), resolveName?_of_noLabel hlabel, Option.getD_some]
    simp only [hlabel]
    rfl
  · have hlabel' : t.writtenName.label ≠ "" := hlabel
    rw [if_neg (by simpa using hlabel), resolveName?_of_label hlabel', h.keeps_prefixed hlabel,
      Option.getD_some]

/-- A text is read as it was, unless it is vacant.

**Proof sketch.** A text that is kept is as it was, unless it is empty, which is vacant; and a text
that is dropped is white space. -/
lemma TextReread.unblank_eq {t t' : Option String} (h : TextReread t t') :
    unblank t' = unblank t := by
  cases h with
  | kept =>
    rcases t with _ | s
    · rfl
    · by_cases hs : s = ""
      · subst hs
        rfl
      · rw [solid, Option.filter_some, if_pos (by simpa using hs)]
  | dropped h =>
    have hblank : (t.getD "").toList.all isBlank = true :=
      List.all_eq_true.2 fun c hc => isBlank_of_isSpace (List.all_eq_true.1 h c hc)
    have hvacant : isVacant t = true := by
      cases t with
      | none => rfl
      | some s => exact hblank
    rw [unblank_of_isVacant hvacant]
    rfl

/-- The text after a node is read as it was, unless it is vacant. -/
lemma Reread.unblank_tail {around : Scope} {n m : Node} (h : Reread around n m) :
    unblank m.tail = unblank n.tail := by
  cases h with
  | element _ _ _ htail => exact htail.unblank_eq
  | comment htail => exact htail.unblank_eq
  | instruction htail => exact htail.unblank_eq

mutual

/-- **What is left of a node that is written and read**, the text after it apart: all of it but
blanks between nodes, where elements without prefix are in the default namespace around them, and
empty texts of elements without nodes are absent.

**Proof sketch.** By the kind of node. An element is read with its tag in the scope around it, its
children by `RereadAll.unspacedAll_eq`, and its text up to blanks, or as it is if it has no
children. -/
theorem Reread.unspaced_eq {around : Scope} {n m : Node} (h : Reread around n m)
    (hn : n.Readable around) :
    m.unspaced.withTail none = (n.remake Tag.settled solid around).unspaced.withTail none := by
  cases h with
  | @element _ tag text text' tail tail' children children' htext hleaf hchildren htail =>
    obtain ⟨htag, -, hreadable, -⟩ := hn
    have hall := hchildren.unspacedAll_eq hreadable
    rw [Tag.within_eq_settled htag]
    cases hchildren with
    | nil =>
      rw [hleaf rfl]
      rfl
    | cons hfirst hrest =>
      rw [Node.remake, Node.remakeAll, Node.unspaced, Node.unspaced, htext.unblank_eq, hall,
        Node.remakeAll]
      rfl
  | comment _ => rfl
  | instruction _ => rfl

/-- Nodes in a row are read settled and without empty texts, up to blanks. -/
theorem RereadAll.unspacedAll_eq {around : Scope} {ns ms : List Node} (h : RereadAll around ns ms)
    (hns : Node.AllReadable around ns) :
    Node.unspacedAll ms = Node.unspacedAll (Node.remakeAll Tag.settled solid around ns) := by
  cases h with
  | nil => rfl
  | @cons _ n m ns ms h hs =>
    have hnode := congrArg (Node.withTail (unblank n.tail)) (h.unspaced_eq hns.1)
    rw [Node.withTail_withTail, Node.withTail_withTail] at hnode
    rw [Node.remakeAll, Node.unspacedAll, Node.unspacedAll, hs.unspacedAll_eq hns.2, h.unblank_tail,
      hnode, Node.tail_remake]

end

/-- Empty texts are left out at once. -/
lemma solid_solid (t : Option String) : solid (solid t) = solid t := by
  rw [solid, solid, Option.filter_filter]
  simp

mutual

/-- What is read holds no empty text in an element without nodes. -/
lemma Reread.remake_solid {around : Scope} {n m : Node} (h : Reread around n m) (around' : Scope) :
    m.remake (fun _ tag => tag) solid around' = m := by
  cases h with
  | @element _ tag text text' tail tail' children children' htext hleaf hchildren htail =>
    have hall := hchildren.remakeAll_solid ((tag.within around).scope around')
    cases hchildren with
    | nil => rw [hleaf rfl, Node.remake, solid_solid]
    | cons hfirst hrest => rw [Node.remake, hall]
  | comment _ => rfl
  | instruction _ => rfl

/-- Nodes in a row that have been read have no empty texts. -/
lemma RereadAll.remakeAll_solid {around : Scope} {ns ms : List Node} (h : RereadAll around ns ms)
    (around' : Scope) : Node.remakeAll (fun _ tag => tag) solid around' ms = ms := by
  cases h with
  | nil => rfl
  | cons h hs => rw [Node.remakeAll, h.remake_solid around', hs.remakeAll_solid around']

end

/-- What is read of a written node has no empty texts. -/
lemma Reread.compact_eq {around : Scope} {n m : Node} (h : Reread around n m) : m.compact = m :=
  h.remake_solid []

namespace Node

mutual

/-- The namespaces of elements are not written. -/
lemma write_remake_settled (retext : Option String → Option String) (around around' : Scope) :
    ∀ n : Node, (n.remake Tag.settled retext around).write =
      (n.remake (fun _ tag => tag) retext around').write
  | element tag _ [] _ => by
    rw [remake, remake, write, write, Tag.write_settled, Tag.written_settled]
  | element tag text (n :: ns) tail => by
    have hall := writeAll_remakeAll_settled retext (tag.scope around) (tag.scope around') (n :: ns)
    rw [remake, remake, write, write, hall, Tag.write_settled, Tag.written_settled,
      isEmpty_remakeAll, isEmpty_remakeAll]
  | comment _ _ => rfl
  | instruction _ _ _ => rfl

/-- Nodes in a row are written alike whether or not they are settled. -/
lemma writeAll_remakeAll_settled (retext : Option String → Option String)
    (around around' : Scope) :
    ∀ ns : List Node, writeAll (remakeAll Tag.settled retext around ns) =
      writeAll (remakeAll (fun _ tag => tag) retext around' ns)
  | [] => rfl
  | n :: ns => by
    rw [remakeAll, remakeAll, writeAll, writeAll, write_remake_settled retext around around' n,
      writeAll_remakeAll_settled retext around around' ns]

end

/-- The layout of a node does not show the namespaces of its elements. -/
lemma format_compact_settled (around : Scope) (n : Node) (indent : Int) :
    (n.settled around).compact.format indent = n.compact.format indent := by
  rw [compact_settled, compact, format, format, render, render, ← remake_layout, ← remake_layout,
    write_remake_settled solid around []]

/-! ## Empty texts -/

/-- An element with nodes is written with its text and its nodes between its tags. -/
lemma write_parent (tag : Tag) (text : Option String) {ns : List Node} (h : ns.isEmpty = false)
    (tail : Option String) :
    (element tag text ns tail).write = '<' :: tag.write ++ ['>'] ++ writeText text ++ writeAll ns ++
      "</".toList ++ tag.name.written.toList ++ ['>'] ++ writeText tail := by
  rw [write, h, Bool.and_false, if_neg Bool.false_ne_true]

/-- Another text after a node changes the length of the node by that of the texts. -/
lemma length_write_withTail (n : Node) (t : Option String) :
    (n.withTail t).write.length + (writeText n.tail).length =
      n.write.length + (writeText t).length := by
  have hn := congrArg List.length n.write_eq
  have ht := congrArg List.length (n.withTail t).write_eq
  rw [List.length_append] at hn ht
  rw [withTail_withTail, tail_withTail] at ht
  omega

section

variable (unit : List Char)

mutual

/-- **A node is written with fewer characters** if empty texts count as absent, unless it holds
none.

**Proof sketch.** Induction on the tree. An element with an empty text and no nodes is written with
two tags, and without the text with one. -/
theorem length_write_remake_solid (level : Nat) (around : Scope) : ∀ n : Node,
    ((n.remake (fun _ tag => tag) solid around).layout unit level).write.length ≤
        (n.layout unit level).write.length ∧
      (((n.remake (fun _ tag => tag) solid around).layout unit level).write.length =
        (n.layout unit level).write.length → n.remake (fun _ tag => tag) solid around = n)
  | element tag none [] tail => ⟨Nat.le_refl _, fun _ => rfl⟩
  | element tag (some s) [] tail => by
    by_cases hs : s = ""
    · subst hs
      have hlt : (element tag none [] tail).write.length <
          (element tag (some "") [] tail).write.length := by
        simp [write, writeText, writeAll, escapeText]
        omega
      exact ⟨hlt.le, fun h => absurd h hlt.ne⟩
    · have hsolid : solid (some s) = some s := by simp [solid, hs]
      rw [remake, hsolid]
      exact ⟨Nat.le_refl _, fun _ => rfl⟩
  | element tag text (n :: ns) tail => by
    obtain ⟨hle, heq⟩ := length_writeAll_remakeAll_solid level (tag.scope around) (n :: ns)
    rw [remake, remakeAll, layout, layout, write_parent _ _ rfl, write_parent _ _ rfl, ← remakeAll]
    simp only [List.length_append]
    refine ⟨by omega, fun h => ?_⟩
    rw [heq (by omega)]
  | comment _ _ => ⟨Nat.le_refl _, fun _ => rfl⟩
  | instruction _ _ _ => ⟨Nat.le_refl _, fun _ => rfl⟩

/-- Nodes in a row take fewer characters without their empty texts, unless they have none. -/
theorem length_writeAll_remakeAll_solid (level : Nat) (around : Scope) : ∀ ns : List Node,
    (writeAll (layoutAll unit level (remakeAll (fun _ tag => tag) solid around ns))).length ≤
        (writeAll (layoutAll unit level ns)).length ∧
      ((writeAll (layoutAll unit level (remakeAll (fun _ tag => tag) solid around ns))).length =
        (writeAll (layoutAll unit level ns)).length →
          remakeAll (fun _ tag => tag) solid around ns = ns)
  | [] => ⟨Nat.le_refl _, fun _ => rfl⟩
  | n :: ns => by
    obtain ⟨hle, heq⟩ := length_write_remake_solid (level + 1) around n
    obtain ⟨hleAll, heqAll⟩ := length_writeAll_remakeAll_solid level around ns
    rw [remakeAll, layoutAll, layoutAll, writeAll, writeAll, List.length_append, List.length_append,
      isEmpty_remakeAll, tail_remake]
    have hwrite := length_write_withTail (n.layout unit (level + 1))
    have hwrite' := length_write_withTail
      ((n.remake (fun _ tag => tag) solid around).layout unit (level + 1))
    simp only [tail_layout, tail_remake] at hwrite hwrite'
    have h1 := hwrite (fill (lineStart unit (if ns.isEmpty then level else level + 1)) n.tail)
    have h2 := hwrite' (fill (lineStart unit (if ns.isEmpty then level else level + 1)) n.tail)
    refine ⟨by omega, fun h => ?_⟩
    rw [heq (by omega), heqAll (by omega)]

end

end

/-- **Empty texts are written**: a node is laid out and written as it would be without them only if
it holds none. -/
lemma compact_eq_of_format_eq {n : Node} {indent : Int}
    (h : n.compact.format indent = n.format indent) : n.compact = n := by
  have hlength : (n.compact.format indent).toList.length = (n.format indent).toList.length := by
    rw [h]
  rw [format, format, render, render, String.toList_ofList, String.toList_ofList] at hlength
  exact (length_write_remake_solid (indentation indent) 0 [] n).2 hlength

/-! ## Names -/

mutual

/-- The names of all elements, in the order of the document. -/
def elementNames : Node → List Name
  | element tag _ children _ => tag.name :: elementNamesAll children
  | _ => []

/-- The names of all elements in a list of nodes. -/
def elementNamesAll : List Node → List Name
  | [] => []
  | n :: ns => elementNames n ++ elementNamesAll ns

end

/-- The text after a node has no part in the names in it. -/
@[simp] lemma elementNames_withTail (n : Node) (t : Option String) :
    (n.withTail t).elementNames = n.elementNames := by
  cases n <;> rfl

mutual

/-- The names in a node are kept when blanks are left out. -/
lemma elementNames_unspaced : ∀ n : Node, n.unspaced.elementNames = n.elementNames
  | element _ _ [] _ => rfl
  | element tag text (n :: ns) tail => by
    rw [unspaced, elementNames, elementNamesAll_unspacedAll (n :: ns), elementNames]
  | comment _ _ => rfl
  | instruction _ _ _ => rfl

/-- The names in nodes in a row are kept when blanks are left out. -/
lemma elementNamesAll_unspacedAll :
    ∀ ns : List Node, elementNamesAll (unspacedAll ns) = elementNamesAll ns
  | [] => rfl
  | n :: ns => by
    rw [unspacedAll, elementNamesAll, elementNames_withTail, elementNames_unspaced n,
      elementNamesAll_unspacedAll ns, elementNamesAll]

end

section

variable {retext : Option String → Option String}

mutual

/-- The names in a node are kept when only texts are remade. -/
lemma elementNames_remake_keep (around : Scope) :
    ∀ n : Node, (n.remake (fun _ tag => tag) retext around).elementNames = n.elementNames
  | element _ _ [] _ => rfl
  | element tag text (n :: ns) tail => by
    rw [remake, elementNames, elementNamesAll_remakeAll_keep (tag.scope around) (n :: ns),
      elementNames]
  | comment _ _ => rfl
  | instruction _ _ _ => rfl

/-- The names in nodes in a row are kept when only texts are remade. -/
lemma elementNamesAll_remakeAll_keep (around : Scope) : ∀ ns : List Node,
    elementNamesAll (remakeAll (fun _ tag => tag) retext around ns) = elementNamesAll ns
  | [] => rfl
  | n :: ns => by
    rw [remakeAll, elementNamesAll, elementNames_remake_keep around n,
      elementNamesAll_remakeAll_keep around ns, elementNamesAll]

end

variable {retag : Scope → Tag → Tag}

mutual

/-- Remaking keeps how many elements there are. -/
lemma length_elementNames_remake (around : Scope) :
    ∀ n : Node, (n.remake retag retext around).elementNames.length = n.elementNames.length
  | element _ _ [] _ => rfl
  | element tag text (n :: ns) tail => by
    rw [remake, elementNames, List.length_cons,
      length_elementNamesAll_remakeAll (tag.scope around) (n :: ns), elementNames, List.length_cons]
  | comment _ _ => rfl
  | instruction _ _ _ => rfl

/-- Remaking keeps how many elements there are in nodes in a row. -/
lemma length_elementNamesAll_remakeAll (around : Scope) : ∀ ns : List Node,
    (elementNamesAll (remakeAll retag retext around ns)).length = (elementNamesAll ns).length
  | [] => rfl
  | n :: ns => by
    rw [remakeAll, elementNamesAll, List.length_append, length_elementNames_remake around n,
      length_elementNamesAll_remakeAll around ns, elementNamesAll, List.length_append]

end

end

end Node

/-- A tag that is settled to the same name is the same tag. -/
lemma Tag.settled_eq_self {t : Tag} {around : Scope} (h : (t.settled around).name = t.name) :
    t.settled around = t := by
  unfold settled at h ⊢
  split
  · rename_i hlabel
    rw [if_pos hlabel] at h
    exact congrArg (fun name => { t with name }) h
  · rfl

namespace Node

mutual

/-- **Putting elements without prefix into the default namespaces around them** changes no name only
if all of them are there already. -/
theorem settled_eq_self (around : Scope) : ∀ n : Node,
    (n.remake Tag.settled id around).elementNames = n.elementNames →
      n.remake Tag.settled id around = n
  | element tag text [] tail, h => by
    rw [remake, elementNames, elementNames] at h
    rw [remake, Tag.settled_eq_self (List.cons.inj h).1]
    rfl
  | element tag text (n :: ns) tail, h => by
    rw [remake, elementNames, elementNames] at h
    rw [remake, Tag.settled_eq_self (List.cons.inj h).1,
      settledAll_eq_self (tag.scope around) (n :: ns) (List.cons.inj h).2]
  | comment _ _, _ => rfl
  | instruction _ _ _, _ => rfl

/-- Nodes in a row are settled if settling them keeps the names in them. -/
theorem settledAll_eq_self (around : Scope) : ∀ ns : List Node,
    elementNamesAll (remakeAll Tag.settled id around ns) = elementNamesAll ns →
      remakeAll Tag.settled id around ns = ns
  | [], _ => rfl
  | n :: ns, h => by
    rw [remakeAll, elementNamesAll, elementNamesAll] at h
    obtain ⟨hn, hns⟩ := List.append_inj h (length_elementNames_remake around n)
    rw [remakeAll, settled_eq_self around n hn, settledAll_eq_self around ns hns]

end

end Node

end JavaTree.Xml
