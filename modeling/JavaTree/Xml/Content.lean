import JavaTree.Xml.Token

/-!
# Declared content of elements

A document type may say of an element what it holds: nothing, anything, text mixed with elements,
or elements alone.  Blank text in an element that holds elements alone only sets them apart.

## Main definitions

* `Xml.Content`, `Xml.Contents` — what an element holds, and what is declared of it.
* `Xml.readContent` — reads what is declared of an element.
-/

namespace JavaTree.Xml

/-- What an element holds. -/
inductive Content
  /-- Elements, and no text. -/
  | elements
  /-- Text, alone or with elements. -/
  | mixed
  deriving Repr, DecidableEq

/-- What is declared of the content of elements, by their names as they are written. -/
abbrev Contents := List (String × Content)

/-- A name with its prefix as it is written. -/
def Written.toString (w : Written) : String :=
  if w.label == "" then w.part else w.label ++ ":" ++ w.part

/-- What is declared of the content of an element. -/
def Contents.of? (contents : Contents) (name : Written) : Option Content :=
  contents.lookup name.toString

/-- Reads how often a part occurs: once, unless there is a sign. -/
def readCount : List Char → List Char
  | '?' :: cs | '*' :: cs | '+' :: cs => cs
  | cs => cs

/-- Reads a group of parts after its opening parenthesis.  All parts are separated in the same way:
by commas, if they follow each other, or by bars, if one is chosen.  `n` bounds the number of
parts. -/
def readGroup : Nat → Option Char → List Char → Option (List Char)
  | 0, _, _ => none
  | n + 1, separator, cs => do
    let rest ← match skipSpace cs with
      | '(' :: rest => readGroup n none rest
      | cs => (readColonName cs).map fun (_, rest) => readCount rest
    match skipSpace rest with
    | ')' :: rest => some (readCount rest)
    | c :: rest =>
      if (c == ',' || c == '|') && separator.all (· == c) then readGroup n (some c) rest else none
    | [] => none

/-- Reads the names of the elements among text, up to the closing parenthesis; if there are any, a
star follows it.  `n` bounds their number. -/
def readMixed : Nat → Bool → List Char → Option (List Char)
  | 0, _, _ => none
  | n + 1, named, cs =>
    match skipSpace cs with
    | ')' :: '*' :: rest => some rest
    | ')' :: rest => if named then none else some rest
    | '|' :: rest => do
      let (_, rest) ← readColonName (skipSpace rest)
      readMixed n true rest
    | _ => none

/-- Reads what is declared of an element; an element that holds nothing has no content. -/
def readContent (cs : List Char) : Option (Option Content × List Char) :=
  match cs with
  | '(' :: cs =>
    match readText "#PCDATA".toList (skipSpace cs) with
    | some rest => (readMixed (rest.length + 1) false rest).map fun rest => (some .mixed, rest)
    | none => (readGroup (cs.length + 1) none cs).map fun rest => (some .elements, rest)
  | cs =>
    match readText "EMPTY".toList cs with
    | some rest => some (none, rest)
    | none => (readText "ANY".toList cs).map fun rest => (some .mixed, rest)

end JavaTree.Xml
