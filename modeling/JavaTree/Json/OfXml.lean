import JavaTree.Json.Basic
import JavaTree.Text.Blank
import JavaTree.Xml.Basic

/-!
# JSON values of XML documents

An element that holds only text is that text.  Another one is an object of what it contributes: its
attributes, its children under their names, and the text before and after them.

## Main definitions

* `Xml.Node.value` — the value of an element.
* `Xml.Node.contributions` — what an element with attributes or children contributes.
* `Xml.Node.document` — the value of a document.
-/

namespace JavaTree.Xml

open JavaTree.Json (text object)

/-- The key of text beside children. -/
def contentKey : String := "content"

/-- A text as a contribution, without the blanks around it; blanks alone contribute nothing. -/
def textItem (s : Option String) : List (String × Json) :=
  let t := trim (s.getD "")
  if t == "" then [] else [(contentKey, text t)]

/-- The attributes as contributions. -/
def attributeItems (tag : Tag) : List (String × Json) :=
  tag.attributes.map fun a => (a.name.key, text a.value)

namespace Node

mutual

/-- The value of an element. -/
def value : Node → Json
  | element tag content children _ =>
    if tag.attributes.isEmpty && !children.any isElement then text (trim (content.getD ""))
    else object (Json.collect (attributeItems tag ++ textItem content ++ childItems children))
  | _ => text ""

/-- The contributions of children: each element, and the text after it. -/
def childItems : List Node → List (String × Json)
  | [] => []
  | element tag content children tail :: ns =>
    (tag.name.part, value (element tag content children tail)) :: textItem tail ++ childItems ns
  | _ :: ns => childItems ns

end

/-- What an element contributes, in order. -/
def contributions : Node → List (String × Json)
  | element tag content children _ => attributeItems tag ++ textItem content ++ childItems children
  | _ => []

/-- The local name of an element. -/
def localName : Node → String
  | element tag _ _ _ => tag.name.part
  | _ => ""

/-- The value of a document. -/
def document (root : Node) : Json := object [(root.localName, root.value)]

end Node

end JavaTree.Xml
