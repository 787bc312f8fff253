import JavaTree.Xml.Char

/-!
# References

A reference stands for characters: by their code, by one of five names that every document knows,
or by a name that the document declares.

## Main definitions

* `Xml.Entities` — the names that a document declares, with what they stand for.
* `Xml.readName` — a name without a colon.
* `Xml.Reference`, `Xml.readReference` — references and how they are read.
-/

namespace JavaTree.Xml

/-- The names that a document declares, with the text that each stands for. -/
abbrev Entities := List (String × List Char)

/-- Reads a name without a colon. -/
def readName : List Char → Option (String × List Char)
  | [] => none
  | c :: cs =>
    if isNameStart c then
      some (String.ofList (c :: cs.takeWhile isNameChar), cs.dropWhile isNameChar)
    else none

/-- The value of a digit in base ten or sixteen. -/
def digitValue? (base : Nat) (c : Char) : Option Nat :=
  let v := if '0' ≤ c && c ≤ '9' then c.toNat - 48
    else if 'a' ≤ c && c ≤ 'f' then c.toNat - 87
    else if 'A' ≤ c && c ≤ 'F' then c.toNat - 55
    else base
  if v < base then some v else none

/-- The number that digits stand for; numbers beyond all characters count as one. -/
def readNumber (base : Nat) (digits : List Char) : Option Nat :=
  digits.foldl (fun total c =>
    match total, digitValue? base c with
    | some n, some v => some (min (n * base + v) 0x110000)
    | _, _ => none) (some 0)

/-- The character with a code, if a document can hold it. -/
def charOfCode? (n : Nat) : Option Char :=
  if h : n.isValidChar then
    let c := Char.ofNatAux n h
    if isChar c then some c else none
  else none

/-- A reference. -/
inductive Reference
  | char (c : Char)
  | entity (name : String)
  deriving Repr, DecidableEq

/-- The names that every document knows. -/
def predefined? : String → Option Char
  | "lt" => some '<'
  | "gt" => some '>'
  | "amp" => some '&'
  | "quot" => some '"'
  | "apos" => some '\''
  | _ => none

/-- Reads a reference by code, after its first two characters. -/
def readCode (base : Nat) (cs : List Char) : Option (Reference × List Char) :=
  match cs.takeWhile (· != ';'), cs.dropWhile (· != ';') with
  | [], _ => none
  | digits, ';' :: rest => do
    let n ← readNumber base digits
    let c ← charOfCode? n
    pure (.char c, rest)
  | _, _ => none

/-- Reads a reference, after the ampersand. -/
def readReference : List Char → Option (Reference × List Char)
  | '#' :: 'x' :: cs => readCode 16 cs
  | '#' :: cs => readCode 10 cs
  | cs =>
    match readName cs with
    | some (name, ';' :: rest) =>
      match predefined? name with
      | some c => some (.char c, rest)
      | none => some (.entity name, rest)
    | _ => none

end JavaTree.Xml
