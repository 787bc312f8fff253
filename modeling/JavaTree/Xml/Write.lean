import JavaTree.Xml.Basic

/-!
# Writing XML

The written form of a document: no declaration, attributes in double quotes, and only those
characters escaped that would be read differently.

## Main definitions

* `Xml.escapeText`, `Xml.escapeValue` — the characters of texts and attribute values as written.
* `Xml.Node.write`, `Xml.Node.render` — the written form of a node with its tail; of a root.
-/

namespace JavaTree.Xml

/-- A character of a text as written. -/
def escapeTextChar : Char → List Char
  | '&' => "&amp;".toList
  | '<' => "&lt;".toList
  | '>' => "&gt;".toList
  | '\r' => "&#13;".toList
  | c => [c]

/-- A character of an attribute value as written. -/
def escapeValueChar : Char → List Char
  | '&' => "&amp;".toList
  | '<' => "&lt;".toList
  | '>' => "&gt;".toList
  | '"' => "&quot;".toList
  | '\n' => "&#10;".toList
  | '\r' => "&#13;".toList
  | '\t' => "&#9;".toList
  | c => [c]

/-- A text as written. -/
def escapeText (s : String) : List Char := s.toList.flatMap escapeTextChar

/-- An attribute value as written. -/
def escapeValue (s : String) : List Char := s.toList.flatMap escapeValueChar

/-- A text as written; nothing for an absent one. -/
def writeText : Option String → List Char
  | none => []
  | some s => escapeText s

/-- An assignment in a tag. -/
def writeAssignment (name value : String) : List Char :=
  ' ' :: name.toList ++ "=\"".toList ++ escapeValue value ++ ['"']

/-- The declaration of a namespace. -/
def writeSpace (d : String × String) : List Char :=
  writeAssignment (if d.1 == "" then "xmlns" else "xmlns:" ++ d.1) d.2

/-- A tag without its brackets. -/
def Tag.write (t : Tag) : List Char :=
  t.name.written.toList ++ t.spaces.flatMap writeSpace ++
    t.attributes.flatMap fun a => writeAssignment a.name.written a.value

namespace Node

mutual

/-- A node and its tail as written. -/
def write : Node → List Char
  | element tag text children tail =>
    (if text.isNone && children.isEmpty then '<' :: tag.write ++ "/>".toList
     else '<' :: tag.write ++ ['>'] ++ writeText text ++ writeAll children ++ "</".toList ++
      tag.name.written.toList ++ ['>']) ++ writeText tail
  | comment text tail => "<!--".toList ++ text.toList ++ "-->".toList ++ writeText tail
  | instruction target text tail =>
    "<?".toList ++ target.toList ++ (match text with | none => [] | some t => ' ' :: t.toList) ++
      "?>".toList ++ writeText tail

/-- A list of nodes as written. -/
def writeAll : List Node → List Char
  | [] => []
  | n :: ns => write n ++ writeAll ns

end

/-- A node as written. -/
def render (n : Node) : String := String.ofList n.write

end Node

end JavaTree.Xml
