import Mathlib.Data.List.Basic
import JavaTree.Proofs.FilterEquivalence
import JavaTree.Proofs.Syntax.Document

/-!
# Omitting more kinds

If a filter omits further kinds of nodes, the element of a tree is pruned: the elements of these
kinds are taken out, each with all that it holds, but the root stays.  An element of which nothing
else is left gets the source text of its node; all else is as it was.

## Main definitions

* `Xml.Node.prune` — an element without some of the elements in it.
* `NodeFilter.omitting` — a filter that omits further kinds.
* `SyntaxTree.shownAt?`, `SyntaxTree.sourceAt` — the node of the element at a place, and the text
  that the element holds if it holds nothing else.

## Main results

* `SyntaxTree.shownAt?_elementPlace` — the node of an element, compared with the places of nodes.
* `SyntaxTree.toElement_omitting` — the element under a filter that omits more.
* `SyntaxTree.build_omitting` — omitting is pruning, in any order.

## Implementation notes

An element does not hold the source text that it gets when all that it held is taken out.  So
pruning is given these texts, by the places of the elements.
-/

namespace JavaTree

namespace Xml.Node

/-- Whether a node is an element whose name is to be dropped. -/
def isDropped (dropped : String → Bool) : Node → Bool
  | element tag _ _ _ => dropped tag.name.key
  | _ => false

mutual

/-- An element without those elements below it whose names are to be dropped, and without all that
is in these.  An element of which nothing else is left gets a text, which depends on its place. -/
def prune (dropped : String → Bool) (source : Place → String) : Node → Node
  | element tag text children tail =>
    match pruneAll dropped source 0 children with
    | [] => element tag (if children.isEmpty then text else some (source [])) [] tail
    | kept => element tag text kept tail
  | n => n

/-- Siblings, the first of which has a position, without those that are to be dropped. -/
def pruneAll (dropped : String → Bool) (source : Place → String) (i : Nat) : List Node → List Node
  | [] => []
  | n :: ns =>
    if n.isDropped dropped then pruneAll dropped source (i + 1) ns
    else prune dropped (fun place => source (i :: place)) n :: pruneAll dropped source (i + 1) ns

end

end Xml.Node

/-! ## Filters that omit more -/

namespace NodeFilter

/-- A filter that omits further kinds. -/
def omitting (f : NodeFilter) (kinds : List String) : NodeFilter :=
  { f with omitted := f.omitted ++ kinds }

variable {f : NodeFilter} {kinds more : List String}

/-- A kind is included after more have been omitted if it was before and is none of these. -/
lemma includes_omitting (f : NodeFilter) (kinds : List String) (kind : String) :
    (f.omitting kinds).includes kind = (f.includes kind && !kinds.contains kind) := by
  rw [Bool.eq_iff_iff, ← not_iff_not, Bool.not_eq_true, Bool.not_eq_true, includes_eq_false_iff]
  have hflags : (f.omitting kinds).flags = f.flags := rfl
  have homitted : (f.omitting kinds).omitted = f.omitted ++ kinds := rfl
  rw [hflags, homitted, Bool.and_eq_false_iff, includes_eq_false_iff, List.mem_append]
  simp only [Bool.not_eq_false', List.contains_iff_mem]
  tauto

/-- What is shown as a leaf does not depend on what is omitted. -/
lemma isLeaf_omitting (f : NodeFilter) (kinds : List String) (kind : String) :
    (f.omitting kinds).isLeaf kind = f.isLeaf kind := rfl

/-- Kinds are omitted at once or one after the other. -/
lemma omitting_omitting (f : NodeFilter) (kinds more : List String) :
    (f.omitting kinds).omitting more = f.omitting (kinds ++ more) := by
  simp only [omitting, List.append_assoc]

/-- Which further kinds are omitted matters, not in which order. -/
lemma alike_omitting (f : NodeFilter) (h : ∀ kind, kind ∈ kinds ↔ kind ∈ more) :
    (f.omitting kinds).Alike (f.omitting more) := by
  refine (f.omitting more).alike_of_mem_iff (fun kind => ?_) fun kind => Iff.rfl
  have homitted : (f.omitting more).omitted = f.omitted ++ more := rfl
  rw [homitted, List.mem_append, List.mem_append, h]

end NodeFilter

namespace SyntaxTree

variable {f : NodeFilter} {t n : SyntaxTree} {place : Place} {kinds : List String}

/-! ## The node of an element -/

/-- The node whose element is at a place. -/
def shownAt? (f : NodeFilter) (t : SyntaxTree) : Place → Option SyntaxTree
  | [] => some t
  | i :: place => (t.shownChildren f)[i]?.bind fun c => c.shownAt? f place

/-- The text that an element holds if it holds nothing else: the source text of its node. -/
def sourceAt (f : NodeFilter) (t : SyntaxTree) (place : Place) : String :=
  ((t.shownAt? f place).map fun n => Xml.spelled n.text).getD ""

/-- **The node of an element** is the one that was emitted there. -/
theorem shownAt?_elementPlace (h : Emitted f t place) (hn : t.at? place = some n) :
    t.shownAt? f (t.elementPlace f place) = some n := by
  induction place generalizing t with
  | nil => exact hn
  | cons i place ih =>
    obtain ⟨hleaf, c, hc, hshows, hemitted⟩ := emitted_cons.1 h
    rw [at?_cons_of_getElem? hc] at hn
    have hchild : (t.shownChildren f)[(t.children.take i).countP (shows f)]? = some c := by
      rw [shownChildren, hleaf]
      exact getElem?_filter_countP hc hshows
    rw [elementPlace_cons hc, shownAt?, hchild]
    exact ih hemitted hn

/-- The source of an element is found step by step. -/
lemma sourceAt_cons {i : Nat} {c : SyntaxTree} (hc : (t.shownChildren f)[i]? = some c)
    (place : Place) : t.sourceAt f (i :: place) = c.sourceAt f place := by
  rw [sourceAt, shownAt?, hc]
  rfl

/-! ## Pruning -/

/-- When kinds are omitted, the shown children are those of other kinds. -/
lemma shownChildren_omitting (f : NodeFilter) (kinds : List String) (t : SyntaxTree) :
    t.shownChildren (f.omitting kinds) =
      (t.shownChildren f).filter fun c => !kinds.contains c.kind := by
  have hshows : ∀ c, shows (f.omitting kinds) c = (!kinds.contains c.kind && shows f c) := by
    intro c
    rw [shows, shows, NodeFilter.includes_omitting]
    cases c.named <;> cases f.includes c.kind <;> simp
  rw [shownChildren, shownChildren, NodeFilter.isLeaf_omitting]
  split
  · rfl
  · rw [List.filter_filter]
    exact List.filter_congr fun c _ => hshows c

/-- The element of a tree is dropped if its kind is. -/
lemma isDropped_toElement (dropped : String → Bool) (f : NodeFilter) (t : SyntaxTree) :
    (t.toElement f).isDropped dropped = dropped t.kind := by
  by_cases h : t.shownChildren f = []
  · rw [toElement_of_nil h]
    rfl
  · rw [toElement_of_ne_nil h]
    rfl

/-- Siblings are pruned one by one. -/
lemma pruneAll_toElement {dropped : String → Bool} {g : NodeFilter} {ts : List SyntaxTree}
    {source : Place → String} {i : Nat}
    (h : ∀ (j : Nat) (c : SyntaxTree), ts[j]? = some c →
      (c.toElement f).prune dropped (fun place => source ((i + j) :: place)) = c.toElement g) :
    Xml.Node.pruneAll dropped source i (ts.map (toElement f)) =
      (ts.filter fun c => !dropped c.kind).map (toElement g) := by
  induction ts generalizing i with
  | nil => rfl
  | cons c ts ih =>
    have hfirst := h 0 c rfl
    have hrest := @ih (i + 1) fun j d hd => by
      rw [Nat.add_assoc, Nat.add_comm 1]
      exact h (j + 1) d hd
    rw [List.map_cons, Xml.Node.pruneAll, isDropped_toElement, List.filter_cons, hrest]
    cases dropped c.kind with
    | true => rfl
    | false => exact congrArg (· :: _) hfirst

/-- **The element under a filter that omits more** is the pruned one.

**Proof sketch.** Induction on the tree. The children that are still shown are those of other kinds,
pruned by induction; if none is left, both sides are the source text. -/
theorem toElement_omitting (f : NodeFilter) (kinds : List String) (t : SyntaxTree) :
    t.toElement (f.omitting kinds) = (t.toElement f).prune kinds.contains (t.sourceAt f) := by
  induction t using induction_children with
  | node t ih =>
    have hshown := shownChildren_omitting f kinds t
    by_cases h : t.shownChildren f = []
    · rw [h, List.filter_nil] at hshown
      rw [toElement_of_nil h, toElement_of_nil hshown]
      rfl
    · have hmem : ∀ c ∈ t.shownChildren f, c ∈ t.children := by
        rw [(shownChildren_of_ne_nil h).2]
        exact fun c hc => List.mem_of_mem_filter hc
      have hpruned : Xml.Node.pruneAll kinds.contains (t.sourceAt f) 0
          ((t.shownChildren f).map (toElement f)) =
            (t.shownChildren (f.omitting kinds)).map (toElement (f.omitting kinds)) := by
        rw [hshown]
        refine pruneAll_toElement fun j c hc => ?_
        have hsource : (fun place => t.sourceAt f ((0 + j) :: place)) = c.sourceAt f := by
          funext place
          rw [Nat.zero_add, sourceAt_cons hc]
        rw [hsource, ih c (hmem c (List.mem_of_getElem? hc))]
      have hsome : ((t.shownChildren f).map (toElement f)).isEmpty = false := by simpa using h
      rw [toElement_of_ne_nil h, Xml.Node.parent, Xml.Node.prune, hpruned]
      by_cases hnone : t.shownChildren (f.omitting kinds) = []
      · -- All that the element held is dropped.
        rw [toElement_of_nil hnone, hnone, hsome]
        rfl
      · rw [toElement_of_ne_nil hnone]
        split
        · rename_i hnil
          exact absurd (List.map_eq_nil_iff.1 hnil) hnone
        · rfl

/-- What is emitted if more kinds are omitted: what was emitted, apart from nodes of these kinds and
those below them.

**Proof sketch.** Both conditions are about the nodes on the way, so they are compared node by node.
-/
lemma emitted_omitting_iff : Emitted (f.omitting kinds) t place ↔
    Emitted f t place ∧ ∀ way, way <+: place → way ≠ [] → ∀ n, t.at? way = some n →
      n.kind ∉ kinds := by
  have hincludes : ∀ n : SyntaxTree, (f.omitting kinds).includes n.kind = true ↔
      f.includes n.kind = true ∧ n.kind ∉ kinds := by
    intro n
    rw [NodeFilter.includes_omitting, Bool.and_eq_true, Bool.not_eq_true', ← Bool.not_eq_true,
      List.contains_iff_mem]
  constructor
  · intro h
    refine ⟨⟨h.exists_node, fun way hway hne n hn => ?_, h.no_leaf_above⟩,
      fun way hway hne n hn => ?_⟩
    · obtain ⟨hnamed, hkind⟩ := h.shown way hway hne n hn
      exact ⟨hnamed, ((hincludes n).1 hkind).1⟩
    · exact ((hincludes n).1 (h.shown way hway hne n hn).2).2
  · rintro ⟨h, hkinds⟩
    refine ⟨h.exists_node, fun way hway hne n hn => ?_, h.no_leaf_above⟩
    obtain ⟨hnamed, hkind⟩ := h.shown way hway hne n hn
    exact ⟨hnamed, (hincludes n).2 ⟨hkind, hkinds way hway hne n hn⟩⟩

/-- **Omitting more kinds is pruning.** The element of a tree under a filter that omits further
kinds is the one under the filter itself, without the elements of these kinds below the root and all
that is in them; an element of which nothing else is left gets the source text of its node, and all
else is as it was. So what is emitted is what was emitted before, apart from nodes of these kinds
and those below them. Kinds that are omitted one after the other, in any order, or together, give
the same element. -/
theorem build_omitting (f : NodeFilter) (kinds : List String) (t : SyntaxTree) :
    t.build (f.omitting kinds) = (t.build f).prune kinds.contains (t.sourceAt f) ∧
    (∀ place n, Emitted f t place → t.at? place = some n →
      t.sourceAt f (t.elementPlace f place) = Xml.spelled n.text) ∧
    (∀ place, Emitted (f.omitting kinds) t place ↔
      Emitted f t place ∧ ∀ way, way <+: place → way ≠ [] → ∀ n, t.at? way = some n →
        n.kind ∉ kinds) ∧
    ∀ more both : List String, (∀ kind, kind ∈ both ↔ kind ∈ kinds ∨ kind ∈ more) →
      t.build ((f.omitting kinds).omitting more) = t.build (f.omitting both) ∧
        t.build ((f.omitting more).omitting kinds) = t.build (f.omitting both) := by
  refine ⟨?_, fun place n h hn => ?_, fun place => emitted_omitting_iff, fun more both hboth => ?_⟩
  · rw [build_eq_toElement, build_eq_toElement, toElement_omitting]
  · rw [sourceAt, shownAt?_elementPlace h hn]
    rfl
  · rw [f.omitting_omitting, f.omitting_omitting]
    refine ⟨(f.alike_omitting fun kind => ?_).build_eq t,
      (f.alike_omitting fun kind => ?_).build_eq t⟩
    · rw [hboth, List.mem_append]
    · rw [hboth, List.mem_append, or_comm]

/-- A filter that omits a kind, and has a flag and a leaf kind. -/
def modestFilter : NodeFilter := ⟨[("identifier", true)], ["modifiers"], ["line_comment"]⟩

/-- In the awkward tree the kind of the root, a leaf kind, and all that is in two nodes are omitted
as well: these two nodes get their source texts. -/
theorem build_omitting_awkwardTree :
    awkwardTree.build modestFilter =
      .parent "program" [.leaf "line_comment" " \t\r\n",
        .parent "string_literal" [.leaf "escape_sequence" "\\0"],
        .parent "block" [.leaf "identifier" "", .leaf "identifier" " x "]] ∧
    awkwardTree.build (modestFilter.omitting ["identifier", "program", "line_comment",
        "escape_sequence"]) =
      .parent "program" [.leaf "string_literal" "\"]]> & <b> \r\\u0000\\ufffe\"",
        .leaf "block" " x "] ∧
    awkwardTree.build ((modestFilter.omitting ["identifier", "program", "line_comment",
        "escape_sequence"]).omitting ["block"]) =
      awkwardTree.build (modestFilter.omitting ["program", "block", "escape_sequence",
        "identifier", "line_comment"]) := by
  obtain ⟨hpruned, -, -, hboth⟩ := build_omitting modestFilter
    ["identifier", "program", "line_comment", "escape_sequence"] awkwardTree
  have hbuild : awkwardTree.build modestFilter =
      .parent "program" [.leaf "line_comment" " \t\r\n",
        .parent "string_literal" [.leaf "escape_sequence" "\\0"],
        .parent "block" [.leaf "identifier" "", .leaf "identifier" " x "]] := by
    rw [build_eq_toElement]
    rfl
  have hunion : ∀ kind, kind ∈ ["program", "block", "escape_sequence", "identifier",
      "line_comment"] ↔ kind ∈ ["identifier", "program", "line_comment", "escape_sequence"] ∨
        kind ∈ ["block"] := by
    intro kind
    simp only [List.mem_cons, List.not_mem_nil, or_false]
    tauto
  refine ⟨hbuild, ?_, (hboth ["block"] _ hunion).1⟩
  rw [hpruned, hbuild]
  rfl

end SyntaxTree

end JavaTree
