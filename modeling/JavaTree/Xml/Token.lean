import JavaTree.Text.Lines
import JavaTree.Xml.Reference

/-!
# Tokens of XML documents

A document as a flat list: tags, runs of text, and so on, in order.  Line ends are read as line
feeds, references are resolved, and names that the document declares are replaced by what they
stand for.

## Main definitions

* `Xml.Follow` — what comes after a run of text.
* `Xml.Token` — the tokens.
* `Xml.readTag`, `Xml.readRun`, `Xml.readUntil` — readers for the parts of tokens.
* `Xml.tokens?` — the tokens of a text.

## Implementation notes

Whether blank text is kept depends on where it ends, so a run is cut before a carriage return and
says what follows.
-/

namespace JavaTree.Xml

/-- What follows a run of text. -/
inductive Follow
  /-- The end of the element. -/
  | closing
  /-- Other markup. -/
  | markup
  /-- A line end that is written with a carriage return. -/
  | lineEnd
  /-- More text. -/
  | text
  deriving Repr, DecidableEq

/-- A name in a tag, with its prefix. -/
structure Written where
  label : String
  part : String
  deriving Repr, DecidableEq, Inhabited

/-- A token of a document. -/
inductive Token
  | opening (name : Written) (attributes : List (Written × String)) (empty : Bool)
  | closing (name : Written)
  | run (text : List Char) (follow : Follow)
  | chars (text : List Char)
  | comment (text : String)
  | instruction (target : String) (text : Option String)
  /-- The start of what a declared name stands for. -/
  | enter
  /-- The end of what a declared name stands for. -/
  | leave
  deriving Repr, Inhabited

/-! ## Parts of tokens -/

/-- A text with every line end a line feed. -/
def unifyLines (cs : List Char) : List Char := if cs.contains '\r' then unifyFrom [] cs else cs

/-- A text without the blanks of markup at its start. -/
def skipSpace (cs : List Char) : List Char := cs.dropWhile isSpace

/-- Reads a text that is given. -/
def readText : List Char → List Char → Option (List Char)
  | [], cs => some cs
  | e :: es, c :: cs => if e == c then readText es cs else none
  | _ :: _, [] => none

/-- Reads up to a given text, and over it. -/
def readUntil (stop : List Char) : List Char → Option (List Char × List Char)
  | [] => none
  | c :: cs =>
    match readText stop (c :: cs) with
    | some rest => some ([], rest)
    | none => (readUntil stop cs).map fun (before, rest) => (c :: before, rest)

/-- Reads a name that may hold colons. -/
def readColonName : List Char → Option (String × List Char)
  | c :: cs =>
    if isNameStart c || c == ':' then
      some (String.ofList (c :: cs.takeWhile fun c => isNameChar c || c == ':'),
        cs.dropWhile fun c => isNameChar c || c == ':')
    else none
  | [] => none

/-- Reads a name with or without a prefix. -/
def readWritten (cs : List Char) : Option (Written × List Char) :=
  match readName cs with
  | none => none
  | some (a, ':' :: rest) =>
    match readName rest with
    | none => none
    | some (_, ':' :: _) => none
    | some (b, rest) => some (⟨a, b⟩, rest)
  | some (a, rest) => some (⟨"", a⟩, rest)

/-- The characters of an attribute value: blanks are read as spaces, references by code stand for
the character itself.  `fuel` bounds how deep names may stand for texts with names. -/
def attributeChars (entities : Entities) : Nat → List Char → Option (List Char)
  | 0, _ => none
  | fuel + 1, cs => go fuel cs cs.length
where
  /-- The characters, one after the other; `n` bounds their number. -/
  go (fuel : Nat) : List Char → Nat → Option (List Char)
    | [], _ => some []
    | _, 0 => none
    | '<' :: _, _ => none
    | '&' :: cs, n + 1 =>
      match readReference cs with
      | some (.char c, rest) => (go fuel rest n).map (c :: ·)
      | some (.entity name, rest) => do
        let text ← entities.lookup name
        let inner ← attributeChars entities fuel text
        let after ← go fuel rest n
        pure (inner ++ after)
      | none => none
    | c :: cs, n + 1 =>
      if isSpace c then (go fuel cs n).map (' ' :: ·)
      else if isChar c then (go fuel cs n).map (c :: ·)
      else none

/-- Reads an attribute value in quotes. -/
def readValue (entities : Entities) : List Char → Option (String × List Char)
  | q :: cs =>
    if q == '"' || q == '\'' then
      match cs.dropWhile (· != q) with
      | _ :: rest =>
        (attributeChars entities (entities.length + 2) (unifyLines (cs.takeWhile (· != q)))).map
          fun value => (String.ofList value, rest)
      | [] => none
    else none
  | [] => none

/-- Reads an attribute. -/
def readAttribute (entities : Entities) (cs : List Char) :
    Option ((Written × String) × List Char) := do
  let (name, rest) ← readWritten cs
  match skipSpace rest with
  | '=' :: rest =>
    let (value, rest) ← readValue entities (skipSpace rest)
    pure ((name, value), rest)
  | _ => none

/-- Reads attributes up to the end of the tag, and over it; says whether the element is empty.
After an attribute there is a blank or the end. -/
def readAttributes (entities : Entities) :
    Nat → List Char → Option (List (Written × String) × Bool × List Char)
  | 0, _ => none
  | fuel + 1, cs =>
    match skipSpace cs with
    | '>' :: rest => some ([], false, rest)
    | '/' :: '>' :: rest => some ([], true, rest)
    | cs => do
      let (first, rest) ← readAttribute entities cs
      match rest with
      | c :: _ =>
        if isSpace c || c == '>' || c == '/' then
          let (others, empty, rest) ← readAttributes entities fuel rest
          pure (first :: others, empty, rest)
        else none
      | [] => none

/-- Reads the rest of an opening tag. -/
def readTag (entities : Entities) (cs : List Char) : Option (Token × List Char) := do
  let (name, rest) ← readWritten cs
  let (attributes, empty, rest) ← readAttributes entities (cs.length + 1) rest
  pure (.opening name attributes empty, rest)

/-- Reads the rest of a closing tag. -/
def readClosing (cs : List Char) : Option (Token × List Char) := do
  let (name, rest) ← readWritten cs
  match skipSpace rest with
  | '>' :: rest => pure (.closing name, rest)
  | _ => none

/-- Reads the rest of a comment, in which no two hyphens follow each other. -/
def readComment (cs : List Char) : Option (Token × List Char) := do
  let (text, rest) ← readUntil ['-', '-'] cs
  match rest with
  | '>' :: rest =>
    if text.all isChar then pure (.comment (String.ofList (unifyLines text)), rest) else none
  | _ => none

/-- Reads the rest of a processing instruction. -/
def readInstruction (cs : List Char) : Option (Token × List Char) := do
  let (target, rest) ← readName cs
  if target.toLower == "xml" then none
  else
    match rest with
    | '?' :: '>' :: rest => pure (.instruction target none, rest)
    | c :: _ =>
      if isSpace c then
        let (text, rest) ← readUntil ['?', '>'] (skipSpace rest)
        if text.all isChar then
          pure (.instruction target (some (String.ofList (unifyLines text))), rest)
        else none
      else none
    | [] => none

/-- Reads the rest of a section of characters. -/
def readSection (cs : List Char) : Option (Token × List Char) := do
  let (text, rest) ← readUntil [']', ']', '>'] cs
  if text.all isChar then pure (.chars (unifyLines text), rest) else none

/-! ## Runs of text -/

/-- Whether a character ends a run of text. -/
def endsRun (c : Char) : Bool := c == '<' || c == '&'

/-- Whether a text holds the mark that ends a section. -/
def hasSectionEnd : List Char → Bool
  | ']' :: ']' :: '>' :: _ => true
  | _ :: cs => hasSectionEnd cs
  | [] => false

/-- What a text that is not part of a run begins with. -/
def followOf : List Char → Follow
  | '<' :: '/' :: _ => .closing
  | '<' :: _ => .markup
  | _ => .text

/-- The pieces of a run of text.  It is cut before each line end of carriage return and line feed,
as long as only ASCII characters have occurred; and before the first other character or lone
carriage return, from where on it is one piece.  After a line end another carriage return ends the
cutting too.  `piece` holds what has been read since the last cut, backwards. -/
def pieces (follow : Follow) (piece : List Char) : List Char → List Token
  | [] => if piece.isEmpty then [] else [.run piece.reverse follow]
  | '\r' :: '\n' :: cs =>
    (if piece.isEmpty then [] else [.run piece.reverse .lineEnd]) ++
      (if cs.head? == some '\r' then [.run (unifyLines ('\n' :: cs)) follow]
       else pieces follow ['\n'] cs)
  | c :: cs =>
    if c == '\r' || 0x80 ≤ c.toNat then
      (if piece.isEmpty then [] else
        [.run piece.reverse (if c == '\r' then .lineEnd else .text)]) ++
        [.run (unifyLines (c :: cs)) follow]
    else pieces follow (c :: piece) cs

/-- Reads a run of text. -/
def readRun (cs : List Char) : Option (List Token × List Char) :=
  let text := cs.takeWhile fun c => !endsRun c
  let rest := cs.dropWhile fun c => !endsRun c
  if text.all isChar && !hasSectionEnd text then some (pieces (followOf rest) [] text, rest)
  else none

/-! ## Documents -/

/-- Reads one token, or the pieces of one run of text; a declared name stands for the tokens that
`expand` gives. -/
def readToken (entities : Entities) (expand : List Char → Option (List Token)) :
    List Char → Option (List Token × List Char)
  | '<' :: '/' :: cs => (readClosing cs).map fun (t, rest) => ([t], rest)
  | '<' :: '!' :: '-' :: '-' :: cs => (readComment cs).map fun (t, rest) => ([t], rest)
  | '<' :: '!' :: cs => do
    let rest ← readText "[CDATA[".toList cs
    (readSection rest).map fun (t, rest) => ([t], rest)
  | '<' :: '?' :: cs => (readInstruction cs).map fun (t, rest) => ([t], rest)
  | '<' :: cs => (readTag entities cs).map fun (t, rest) => ([t], rest)
  | '&' :: cs =>
    match readReference cs with
    | some (.char c, rest) => some ([.chars [c]], rest)
    | some (.entity name, rest) => do
      let text ← entities.lookup name
      let ts ← expand text
      pure (.enter :: ts ++ [.leave], rest)
    | none => none
  | cs => readRun cs

/-- The tokens of a text, read one after the other; `n` bounds their number, and `read` holds those
read before, the last one first. -/
def readTokens (entities : Entities) (expand : List Char → Option (List Token)) :
    Nat → List Token → List Char → Option (List Token)
  | _, read, [] => some read.reverse
  | 0, _, _ => none
  | n + 1, read, cs =>
    match readToken entities expand cs with
    | some (ts, rest) => readTokens entities expand n (ts.reverse ++ read) rest
    | none => none

/-- Whether every tag of a list of tokens is closed in it. -/
def balanced : List Written → List Token → Bool
  | names, [] => names.isEmpty
  | names, .opening name _ empty :: ts => balanced (if empty then names else name :: names) ts
  | [], .closing _ :: _ => false
  | n :: names, .closing name :: ts => n == name && balanced names ts
  | names, _ :: ts => balanced names ts

/-- The tokens of a text.  `fuel` bounds how deep names may stand for texts with names; what a name
stands for is complete in itself. -/
def tokensWithin (entities : Entities) : Nat → List Char → Option (List Token)
  | 0, cs => readTokens entities (fun _ => none) cs.length [] cs
  | fuel + 1, cs =>
    readTokens entities
      (fun text => do
        let ts ← tokensWithin entities fuel text
        if balanced [] ts then pure ts else none)
      cs.length [] cs

/-- The tokens of a text. -/
def tokens? (entities : Entities) (cs : List Char) : Option (List Token) :=
  tokensWithin entities (entities.length + 1) cs

end JavaTree.Xml
