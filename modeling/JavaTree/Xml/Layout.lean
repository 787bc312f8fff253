import JavaTree.Text.Blank
import JavaTree.Text.Indent
import JavaTree.Xml.Write

/-!
# Layout of XML documents

Every child of an element goes on a line of its own, further to the right than its parent.  Only
places between nodes that hold nothing but blanks are filled; other text stays as it is, and so does
all text of elements without children.

## Main definitions

* `Xml.Node.layout` — a node with the blanks below it set.
* `Xml.Node.format` — the written form of a root after layout.
-/

namespace JavaTree.Xml

/-- Whether a text is absent, empty or made of blanks. -/
def isVacant : Option String → Bool
  | none => true
  | some s => s.toList.all isBlank

/-- A vacant text becomes a given one. -/
def fill (blanks : List Char) (text : Option String) : Option String :=
  if isVacant text then some (String.ofList blanks) else text

namespace Node

mutual

/-- A node at a level with the blanks below it set. -/
def layout (unit : List Char) (level : Nat) : Node → Node
  | element tag text [] tail => element tag text [] tail
  | element tag text (n :: ns) tail =>
    element tag (fill (lineStart unit (level + 1)) text) (layoutAll unit level (n :: ns)) tail
  | n => n

/-- The children of a node at a level, with the blanks after and below each of them set. -/
def layoutAll (unit : List Char) (level : Nat) : List Node → List Node
  | [] => []
  | n :: ns =>
    let after := lineStart unit (if ns.isEmpty then level else level + 1)
    ((layout unit (level + 1) n).withTail (fill after n.tail)) :: layoutAll unit level ns

end

/-- The written form of a root after layout. -/
def format (indent : Int) (root : Node) : String := (root.layout (indentation indent) 0).render

end Node

end JavaTree.Xml
