/-!
# XML documents

Elements with attributes, namespaces, and mixed content.  The text of an element is the text before
its first child; text after a child is the tail of that child.  An absent text and an empty one
differ: an element without text and children is written as an empty tag.

## Main definitions

* `Xml.Attribute`, `Xml.Tag`, `Xml.Node` — attributes, names with attributes, and nodes with the
  text after them.
* `Xml.Node.leaf`, `Xml.Node.parent` — elements without attributes.
-/

namespace JavaTree.Xml

/-- A name with its namespace, if it is in one, and the prefix it is written with. -/
structure Name where
  space : Option String := none
  label : String := ""
  part : String
  deriving Repr, DecidableEq, Inhabited

/-- The name as it is written. -/
def Name.written (n : Name) : String := if n.label == "" then n.part else n.label ++ ":" ++ n.part

/-- The name with its namespace in front, as a key. -/
def Name.key (n : Name) : String :=
  match n.space with
  | none => n.part
  | some uri => "\x7b" ++ uri ++ "\x7d" ++ n.part

/-- An attribute. -/
structure Attribute where
  name : Name
  value : String
  deriving Repr, DecidableEq, Inhabited

/-- What stands in the tag of an element: its name, the namespaces that are declared there, by
prefix, and its attributes. -/
structure Tag where
  name : Name
  spaces : List (String × String) := []
  attributes : List Attribute := []
  deriving Repr, DecidableEq, Inhabited

/-- A node and the text after it. -/
inductive Node
  | element (tag : Tag) (text : Option String) (children : List Node) (tail : Option String)
  | comment (text : String) (tail : Option String)
  | instruction (target : String) (text : Option String) (tail : Option String)
  deriving Inhabited

namespace Node

/-- The text after a node. -/
def tail : Node → Option String
  | element _ _ _ t => t
  | comment _ t => t
  | instruction _ _ t => t

/-- The node with another text after it. -/
def withTail (tail : Option String) : Node → Node
  | element tag text children _ => element tag text children tail
  | comment text _ => comment text tail
  | instruction target text _ => instruction target text tail

/-- An element that holds a text only. -/
def leaf (name text : String) : Node := element ⟨{ part := name }, [], []⟩ (some text) [] none

/-- An element that holds other nodes only. -/
def parent (name : String) (children : List Node) : Node :=
  element ⟨{ part := name }, [], []⟩ none children none

/-- Whether the node is an element. -/
def isElement : Node → Bool
  | element .. => true
  | _ => false

end Node

end JavaTree.Xml
