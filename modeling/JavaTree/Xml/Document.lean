import JavaTree.Text.Encoding
import JavaTree.Xml.Prolog
import JavaTree.Xml.Tree

/-!
# Reading XML documents

A document is stored in UTF-8, unless it declares another encoding and does not begin with a byte
order mark.

## Main definitions

* `Xml.presetTokens` — tags with the defaults that the document type declares for attributes.
* `Xml.readBody` — a document without byte order mark and declaration.
* `Xml.parse?` — the root element of a document.
-/

namespace JavaTree.Xml

/-- The attributes of a tag by the rules for its element: values that are not free text are lists
of words, and attributes that are not given have their defaults. -/
def applyRules (rules : List AttributeRule) (name : Written)
    (attributes : List (Written × String)) : List (Written × String) :=
  let rules := rules.filter fun r => r.element == name.toString
  let given := attributes.map fun (n, v) =>
    match rules.find? fun r => r.name == n.toString with
    | some r => (n, if r.free then v else String.ofList (joinWords v.toList))
    | none => (n, v)
  let missing := rules.filterMap fun r =>
    if attributes.any fun (n, _) => n.toString == r.name then none
    else
      match r.preset, readWritten r.name.toList with
      | some v, some (n, []) => some (n, v)
      | _, _ => none
  given ++ missing

/-- A token with the defaults that are declared for attributes. -/
def presetToken (rules : List AttributeRule) : Token → Token
  | .opening name attributes empty => .opening name (applyRules rules name attributes) empty
  | t => t

/-- Tokens with the defaults that are declared for attributes. -/
def presetTokens (rules : List AttributeRule) (ts : List Token) : List Token :=
  if rules.isEmpty then ts else ts.map (presetToken rules)

/-- The root element of a document, without what declares its version. -/
def readBody (cs : List Char) : Option Node := do
  let (d, rest) ← readProlog (cs.length + 1) none cs
  let ts ← tokens? d.entities rest
  assemble? d.contents (presetTokens d.attributes ts)

/-- The root element of a document after its declaration, if it has one. -/
def readDeclared (cs : List Char) : Option (Option Declaration × List Char) :=
  match cs with
  | '<' :: '?' :: 'x' :: 'm' :: 'l' :: c :: rest =>
    if isSpace c then (readDeclaration (c :: rest)).map fun (d, rest) => (some d, rest)
    else some (none, cs)
  | _ => some (none, cs)

/-- The text as the encoding that its declaration names makes it. -/
def recode (text : String) (d : Option Declaration) : Option (List Char) :=
  match d.bind (·.encoding) with
  | none => some text.toList
  | some name => do
    let e ← Encoding.named? name
    if e == .utf8 then pure text.toList
    else (e.decode? text.toByteArray).map String.toList

/-- The root element of a document; nothing if the text is none. -/
def parse? (text : String) : Option Node :=
  match text.toList with
  | '\uFEFF' :: cs => do
    let (_, rest) ← readDeclared cs
    readBody rest
  | cs => do
    let (d, _) ← readDeclared cs
    let cs ← recode text d
    let (_, rest) ← readDeclared cs
    readBody rest

end JavaTree.Xml
