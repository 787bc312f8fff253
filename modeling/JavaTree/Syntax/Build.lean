import JavaTree.Syntax.Element

/-!
# Building elements without recursion

Sources may be nested deeper than a stack allows, so the element of a tree is built from a list of
pending nodes.  Each of them has its element already, which is empty and is known by its place
below the root.  A step takes the first pending node and fills its element: with the text of the
node, or with empty elements for those children that are shown, which become pending in its stead.

## Main definitions

* `Xml.Node.modifyAt` — a node with the element at a place changed.
* `Building`, `Building.step`, `Building.finish` — unfinished elements, and how they are finished.
* `SyntaxTree.build` — the element of a tree, built from pending nodes.
-/

namespace JavaTree

namespace Xml.Node

/-- An element that is still to be filled. -/
def bare (name : String) : Node := element ⟨{ part := name }, [], []⟩ none [] none

/-- An element with another text. -/
def setText (text : String) : Node → Node
  | element tag _ children tail => element tag (some text) children tail
  | n => n

/-- An element with further nodes after those that it holds. -/
def addChildren (more : List Node) : Node → Node
  | element tag text children tail => element tag text (children ++ more) tail
  | n => n

/-- A node with the element at a place changed.  A place is given by the positions of the nodes on
the way to it, each among its siblings. -/
def modifyAt (change : Node → Node) : List Nat → Node → Node
  | [], n => change n
  | i :: place, element tag text children tail =>
    element tag text (children.modify i (modifyAt change place)) tail
  | _ :: _, n => n

end Xml.Node

namespace SyntaxTree

/-- Trees do not get larger when some are left out. -/
theorem sizeAll_filter_le (p : SyntaxTree → Bool) (ts : List SyntaxTree) :
    sizeAll (ts.filter p) ≤ sizeAll ts := by
  induction ts with
  | nil => simp
  | cons t ts ih =>
    rw [List.filter_cons]
    split
    · simp only [sizeAll]
      omega
    · simp only [sizeAll]
      omega

end SyntaxTree

/-- A place below a root: the positions of the nodes on the way to it. -/
abbrev Place := List Nat

/-- An element that is being built: the nodes whose elements are still to be filled, with the places
of these, and the root. -/
structure Building where
  pending : List (SyntaxTree × Place)
  root : Xml.Node

namespace Building

/-- The element of a tree before it is filled. -/
def start (t : SyntaxTree) : Building := ⟨[(t, [])], .bare t.kind⟩

/-- Nodes with the places of their elements, which are all that the element at a place holds. -/
def childPlaces (place : Place) (ts : List SyntaxTree) : List (SyntaxTree × Place) :=
  ts.zipIdx.map fun (t, i) => (t, place ++ [i])

/-- Fills the element of the first pending node. -/
def step (f : NodeFilter) : Building → Option Building
  | ⟨[], _⟩ => none
  | ⟨(t, place) :: rest, root⟩ =>
    let filled : Building := ⟨rest, root.modifyAt (.setText (Xml.legible t.text)) place⟩
    if f.isLeaf t.kind then some filled
    else
      match t.children.filter (SyntaxTree.shows f) with
      | [] => some filled
      | shown =>
        some ⟨childPlaces place shown ++ rest,
          root.modifyAt (.addChildren (shown.map fun c => .bare c.kind)) place⟩

/-- The number of nodes that are pending or below a pending one. -/
def size (b : Building) : Nat := SyntaxTree.sizeAll (b.pending.map (·.1))

/-- The children of a tree are all given places, in their order. -/
theorem childPlaces_map_fst (place : Place) (ts : List SyntaxTree) :
    (childPlaces place ts).map (·.1) = ts := by
  simp [childPlaces, Function.comp_def]

/-- Every step leaves fewer nodes to do.

**Proof sketch.** The first tree that is pending is taken away, and at most the trees in it are
added, which are smaller together by one. -/
theorem size_lt_of_step {f : NodeFilter} {b b' : Building} (h : b.step f = some b') :
    b'.size < b.size := by
  obtain ⟨pending, root⟩ := b
  cases pending with
  | nil => cases h
  | cons p rest =>
    obtain ⟨t, place⟩ := p
    have ht := t.size_eq
    have hf := SyntaxTree.sizeAll_filter_le (SyntaxTree.shows f) t.children
    simp only [step] at h
    split at h
    · cases h
      simp only [size, List.map_cons, SyntaxTree.sizeAll]
      omega
    · split at h
      · cases h
        simp only [size, List.map_cons, SyntaxTree.sizeAll]
        omega
      · cases h
        simp only [size, List.map_append, childPlaces_map_fst, List.map_cons,
          SyntaxTree.sizeAll_append, SyntaxTree.sizeAll]
        omega

/-- Fills elements until no node is pending. -/
def finish (f : NodeFilter) (b : Building) : Xml.Node :=
  match _h : b.step f with
  | none => b.root
  | some b' => finish f b'
termination_by b.size
decreasing_by exact size_lt_of_step _h

end Building

/-- The element of a tree, built from pending nodes. -/
def SyntaxTree.build (f : NodeFilter) (t : SyntaxTree) : Xml.Node := (Building.start t).finish f

end JavaTree
