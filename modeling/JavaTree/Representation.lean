import JavaTree.Json.OfXml
import JavaTree.Json.Write
import JavaTree.Xml.Document
import JavaTree.Xml.Layout

/-!
# Representations

A tree is shown as XML or as JSON.

## Main definitions

* `Representation`, `Representation.ofCode` — the representations and their codes.
* `ConversionError` — why a document cannot be shown.
* `formatXml`, `xmlToJson`, `convert` — a document, given as text, in a representation.
-/

namespace JavaTree

/-- How a tree is shown. -/
inductive Representation
  | xml
  | json
  deriving Repr, DecidableEq, Inhabited

namespace Representation

/-- The code of a representation. -/
def code : Representation → String
  | xml => "XML"
  | json => "JSON"

/-- The message for a code that stands for nothing. -/
def unsupported (code : String) : String := "지원하지 않는 표현 형식입니다: " ++ code

/-- The representation that a code stands for; the empty code is that of XML. -/
def ofCode? (code : String) : Option Representation :=
  if code == "" || code == "XML" then some xml
  else if code == "JSON" then some json
  else none

end Representation

/-- Why a text cannot be shown in a representation. -/
inductive ConversionError
  /-- The text is no XML document. -/
  | malformed
  /-- There is no representation of that name. -/
  | unsupported (code : String)
  deriving Repr, DecidableEq

/-- The indentation if none is given. -/
def defaultIndent : Int := 3

/-- An XML document with a new layout. -/
def formatXml (text : String) (indent : Int := defaultIndent) : Option String :=
  (Xml.parse? text).map (·.format indent)

/-- An XML document as JSON. -/
def xmlToJson (text : String) (indent : Int := defaultIndent) : Option String :=
  (Xml.parse? text).map fun root => root.document.render indent

/-- An XML document in a representation. -/
def Representation.show? (r : Representation) (text : String) : Option String :=
  match r with
  | .xml => formatXml text
  | .json => xmlToJson text

/-- A request for a representation: a representation, or a name that stands for none. -/
abbrev Asked := Representation ⊕ String

/-- An XML document in the representation that is asked for, which is looked at first. -/
def convert (text : String) : Asked → Except ConversionError String
  | .inr code => .error (.unsupported code)
  | .inl r =>
    match r.show? text with
    | some s => .ok s
    | none => .error .malformed

end JavaTree
