import JavaTree.NodeFilter
import JavaTree.Syntax.Tree
import JavaTree.Xml.Basic
import JavaTree.Xml.Char

/-!
# Syntax trees as XML elements

A node that is shown becomes an element of its kind.  The element holds the elements of those
children that are shown; a leaf, or a node none of whose children is shown, holds the source text.

## Main definitions

* `SyntaxTree.shows` — whether a child is shown.
* `SyntaxTree.toElement` — the element of a tree, which is shown in any case.
-/

namespace JavaTree.SyntaxTree

/-- Whether a node is shown where its parent's children are: it is named and its kind is chosen. -/
def shows (f : NodeFilter) (t : SyntaxTree) : Bool := t.named && f.includes t.kind

mutual

/-- The element of a tree. -/
def toElement (f : NodeFilter) : SyntaxTree → Xml.Node
  | ⟨kind, text, _, _, _, _, children⟩ =>
    if f.isLeaf kind then .leaf kind (Xml.legible text)
    else
      match childElements f children with
      | [] => .leaf kind (Xml.legible text)
      | elements => .parent kind elements

/-- The elements of those trees of a list that are shown. -/
def childElements (f : NodeFilter) : List SyntaxTree → List Xml.Node
  | [] => []
  | t :: ts =>
    if shows f t then toElement f t :: childElements f ts else childElements f ts

end

end JavaTree.SyntaxTree
