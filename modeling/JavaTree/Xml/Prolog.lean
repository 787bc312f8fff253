import JavaTree.Xml.Content

/-!
# What stands before the root

A document may begin with a declaration, which names its version and encoding, and may hold a
document type, which declares names for texts, and attributes with their defaults.

## Main definitions

* `Xml.Declaration`, `Xml.readDeclaration` — the declaration at the very start.
* `Xml.AttributeRule`, `Xml.Declared` — what a document type declares.
* `Xml.readDoctype` — a document type.
* `Xml.readProlog` — comments, instructions and a document type.
-/

namespace JavaTree.Xml

/-! ## Small readers -/

/-- Reads blanks, of which there is at least one. -/
def readSpace : List Char → Option (List Char)
  | c :: cs => if isSpace c then some (skipSpace cs) else none
  | [] => none

/-- Reads a text in quotes. -/
def readQuoted : List Char → Option (List Char × List Char)
  | q :: cs =>
    if q == '"' || q == '\'' then
      match cs.dropWhile (· != q) with
      | _ :: rest => some (cs.takeWhile (· != q), rest)
      | [] => none
    else none
  | [] => none

/-! ## The declaration -/

/-- A declaration, with the encoding that it names. -/
structure Declaration where
  encoding : Option String
  deriving Repr, DecidableEq

/-- Reads a name with a quoted value. -/
def readAssignment (name : String) (cs : List Char) : Option (List Char × List Char) := do
  let rest ← readText name.toList cs
  match skipSpace rest with
  | '=' :: rest => readQuoted (skipSpace rest)
  | _ => none

/-- The versions that can be read are those that begin with one. -/
def isVersion : List Char → Bool
  | '1' :: '.' :: cs => cs.all Char.isDigit
  | _ => false

/-- Whether a text can be the name of an encoding. -/
def isEncodingName : List Char → Bool
  | [] => false
  | c :: cs => c.isAlpha && cs.all fun c => c.isAlphanum || c == '.' || c == '_' || c == '-'

/-- Reads the end of a declaration. -/
def readDeclarationEnd (cs : List Char) : Option (List Char) := readText ['?', '>'] (skipSpace cs)

/-- Reads the statement whether a document stands alone, if there is one, and the end of the
declaration. -/
def readStandalone (cs : List Char) : Option (List Char) :=
  match (readSpace cs).bind (readAssignment "standalone") with
  | some (value, rest) =>
    if value == "yes".toList || value == "no".toList then readDeclarationEnd rest else none
  | none => readDeclarationEnd cs

/-- Reads a declaration, after its first five characters. -/
def readDeclaration (cs : List Char) : Option (Declaration × List Char) := do
  let rest ← readSpace cs
  let (version, rest) ← readAssignment "version" rest
  if !isVersion version then none
  else
    match (readSpace rest).bind (readAssignment "encoding") with
    | some (name, rest) =>
      if isEncodingName name then
        (readStandalone rest).map fun rest => (⟨some (String.ofList name)⟩, rest)
      else none
    | none => (readStandalone rest).map fun rest => (⟨none⟩, rest)

/-! ## Document types -/

/-- What is declared of an attribute of an element: whether its value is free text, and its
default. -/
structure AttributeRule where
  element : String
  name : String
  free : Bool
  preset : Option String
  deriving Repr, DecidableEq

/-- What a document type declares. -/
structure Declared where
  entities : Entities := []
  parameters : Entities := []
  attributes : List AttributeRule := []
  contents : Contents := []
  deriving Repr, DecidableEq

/-- The text that a declared name stands for: references by code are resolved, those by name are
kept.  `n` bounds the number of characters. -/
def entityChars : Nat → List Char → Option (List Char)
  | _, [] => some []
  | 0, _ => none
  | _ + 1, '%' :: _ => none
  | n + 1, '&' :: '#' :: cs =>
    match readReference ('#' :: cs) with
    | some (.char c, rest) => (entityChars n rest).map (c :: ·)
    | _ => none
  | n + 1, '&' :: cs =>
    match readColonName cs with
    | some (name, ';' :: rest) =>
      (entityChars n rest).map fun after => '&' :: name.toList ++ ';' :: after
    | _ => none
  | n + 1, c :: cs => if isChar c then (entityChars n cs).map (c :: ·) else none

/-- Reads where an external text is found. -/
def readExternal (cs : List Char) : Option (List Char) :=
  match readText "SYSTEM".toList cs with
  | some rest => do
    let rest ← readSpace rest
    let (_, rest) ← readQuoted rest
    pure rest
  | none => do
    let rest ← readText "PUBLIC".toList cs
    let rest ← readSpace rest
    let (_, rest) ← readQuoted rest
    let rest ← readSpace rest
    let (_, rest) ← readQuoted rest
    pure rest

/-- Reads the end of a declaration in a document type. -/
def readMarkEnd (cs : List Char) : Option (List Char) := readText ['>'] (skipSpace cs)

/-- Adds a name to a list, unless it is there. -/
def addEntity (name : String) (text : List Char) (names : Entities) : Entities :=
  if (names.lookup name).isSome then names else names ++ [(name, text)]

/-- Reads the percent sign before the name of a parameter: whether there is one. -/
def readParameterSign : List Char → Option (Bool × List Char)
  | '%' :: cs => (readSpace cs).map fun rest => (true, rest)
  | cs => some (false, cs)

/-- Reads the declaration of a name, after its keyword. -/
def readEntity (d : Declared) (cs : List Char) : Option (Declared × List Char) := do
  let rest ← readSpace cs
  let (parameter, rest) ← readParameterSign rest
  let (name, rest) ← readName rest
  let rest ← readSpace rest
  match readQuoted rest with
  | some (value, rest) =>
    let text ← entityChars (value.length + 1) (unifyLines value)
    let rest ← readMarkEnd rest
    if parameter then pure ({ d with parameters := addEntity name text d.parameters }, rest)
    else pure ({ d with entities := addEntity name text d.entities }, rest)
  | none =>
    let rest ← readExternal rest
    match (readSpace rest).bind (readText "NDATA".toList) with
    | some rest =>
      if parameter then none
      else
        let rest ← readSpace rest
        let (_, rest) ← readColonName rest
        let rest ← readMarkEnd rest
        pure (d, rest)
    | none =>
      let rest ← readMarkEnd rest
      pure (d, rest)

/-- Reads the type of an attribute: whether its value is free text. -/
def readAttributeType (cs : List Char) : Option (Bool × List Char) :=
  match cs with
  | '(' :: cs => (readUntil [')'] cs).map fun (_, rest) => (false, rest)
  | cs => do
    let (word, rest) ← readName cs
    if word == "CDATA" then pure (true, rest)
    else if word == "NOTATION" then
      let rest ← readSpace rest
      let rest ← readText ['('] rest
      let (_, rest) ← readUntil [')'] rest
      pure (false, rest)
    else if ["ID", "IDREF", "IDREFS", "ENTITY", "ENTITIES", "NMTOKEN", "NMTOKENS"].contains word
    then pure (false, rest)
    else none

/-- A text with one space for every row of spaces in it, and none at the end. -/
def joinSpaces : List Char → List Char
  | [] => []
  | c :: cs =>
    if c == ' ' then
      match joinSpaces cs with
      | [] => []
      | d :: ds => if d == ' ' then d :: ds else ' ' :: d :: ds
    else c :: joinSpaces cs

/-- Words of a text with one space between them. -/
def joinWords (cs : List Char) : List Char := joinSpaces (cs.dropWhile (· == ' '))

/-- Reads the keyword of a default that is the only value, if there is one. -/
def readFixed (cs : List Char) : Option (List Char) :=
  match readText "#FIXED".toList cs with
  | some rest => readSpace rest
  | none => some cs

/-- Reads the default of an attribute. -/
def readPreset (d : Declared) (cs : List Char) : Option (Option String × List Char) :=
  match readText "#REQUIRED".toList cs, readText "#IMPLIED".toList cs with
  | some rest, _ => some (none, rest)
  | _, some rest => some (none, rest)
  | none, none => do
    let rest ← readFixed cs
    let (value, rest) ← readValue d.entities rest
    pure (some value, rest)

/-- Reads the attributes of an element up to the end of their declaration. -/
def readAttributeRules (element : String) :
    Nat → Declared → List Char → Option (Declared × List Char)
  | 0, _, _ => none
  | n + 1, d, cs =>
    match skipSpace cs with
    | '>' :: rest => some (d, rest)
    | cs => do
      let (name, rest) ← readColonName cs
      let rest ← readSpace rest
      let (free, rest) ← readAttributeType rest
      let rest ← readSpace rest
      let (preset, rest) ← readPreset d rest
      let preset := if free then preset
        else preset.map fun v => String.ofList (joinWords v.toList)
      let known := d.attributes.any fun r => r.element == element && r.name == name
      let d := if known then d
        else { d with attributes := d.attributes ++ [⟨element, name, free, preset⟩] }
      readAttributeRules element n d rest

/-- Reads the declaration of an element, after its keyword. -/
def readElement (d : Declared) (cs : List Char) : Option (Declared × List Char) := do
  let rest ← readSpace cs
  let (name, rest) ← readColonName rest
  let rest ← readSpace rest
  let (content, rest) ← readContent rest
  let rest ← readMarkEnd rest
  match content with
  | some c =>
    if (d.contents.lookup name).isSome then pure (d, rest)
    else pure ({ d with contents := d.contents ++ [(name, c)] }, rest)
  | none => pure (d, rest)

/-- Reads a declaration that is not looked at. -/
def skipMark (cs : List Char) : Option (List Char) := do
  let rest ← readSpace cs
  let (_, rest) ← readColonName rest
  let rest ← readSpace rest
  let (text, rest) ← readUntil ['>'] rest
  if text.contains '<' || text.isEmpty then none else pure rest

/-- Reads one declaration, after its first two characters. -/
def readMark (d : Declared) (cs : List Char) : Option (Declared × List Char) :=
  match readText "ENTITY".toList cs with
  | some rest => readEntity d rest
  | none =>
    match readText "ELEMENT".toList cs with
    | some rest => readElement d rest
    | none =>
      match readText "ATTLIST".toList cs with
      | some rest => do
        let rest ← readSpace rest
        let (element, rest) ← readColonName rest
        readAttributeRules element (rest.length + 1) d rest
      | none => do
        let rest ← readText "NOTATION".toList cs
        let rest ← skipMark rest
        pure (d, rest)

/-- Reads the declarations in brackets up to the closing bracket, or up to the end of a text that a
parameter stands for.  `n` bounds the number of steps. -/
def readSubset : Nat → Declared → List Char → Option (Declared × List Char)
  | 0, _, _ => none
  | n + 1, d, cs =>
    match skipSpace cs with
    | [] => some (d, [])
    | ']' :: rest => some (d, ']' :: rest)
    | '%' :: rest =>
      match readName rest with
      | some (name, ';' :: rest) => do
        let text ← d.parameters.lookup name
        let (d, left) ← readSubset n d text
        if left.isEmpty then readSubset n d rest else none
      | _ => none
    | '<' :: '?' :: rest => do
      let (_, rest) ← readInstruction rest
      readSubset n d rest
    | '<' :: '!' :: '-' :: '-' :: rest => do
      let (_, rest) ← readComment rest
      readSubset n d rest
    | '<' :: '!' :: rest => do
      let (d, rest) ← readMark d rest
      readSubset n d rest
    | _ => none

/-- Reads a document type, after its keyword. -/
def readDoctype (cs : List Char) : Option (Declared × List Char) := do
  let rest ← readSpace cs
  let (_, rest) ← readColonName rest
  let rest := match (readSpace rest).bind readExternal with
    | some rest => rest
    | none => rest
  match skipSpace rest with
  | '[' :: rest =>
    match readSubset (rest.length + 1) {} rest with
    | some (d, ']' :: rest) => (readMarkEnd rest).map fun rest => (d, rest)
    | _ => none
  | '>' :: rest => pure ({}, rest)
  | _ => none

/-! ## The prolog -/

/-- Reads what stands before the root: blanks, comments, instructions, and at most one document
type, whose declarations are found in `found`.  `n` bounds the number of steps. -/
def readProlog : Nat → Option Declared → List Char → Option (Declared × List Char)
  | 0, _, _ => none
  | n + 1, found, cs =>
    match skipSpace cs with
    | '<' :: '?' :: rest => do
      let (_, rest) ← readInstruction rest
      readProlog n found rest
    | '<' :: '!' :: '-' :: '-' :: rest => do
      let (_, rest) ← readComment rest
      readProlog n found rest
    | '<' :: '!' :: rest => do
      let rest ← readText "DOCTYPE".toList rest
      if found.isSome then none
      else
        let (d, rest) ← readDoctype rest
        readProlog n (some d) rest
    | cs => some (found.getD {}, cs)

end JavaTree.Xml
