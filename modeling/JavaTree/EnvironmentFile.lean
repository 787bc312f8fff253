import JavaTree.Text.Blank
import JavaTree.Text.Entries

/-!
# Environment files

A file that sets variables, one in a line: a name, an equals sign and a value, which may be in
quotes.  A value can use the values of other variables.  What the environment already holds is not
changed.

## Main definitions

* `Environment` — variables with their values.
* `Binding`, `readBinding` — what a line says, and how it is read.
* `readBindings` — what all lines say, and the lines that cannot be read.
* `expand` — a value with the values of other variables put in.
* `Environment.load` — an environment with the variables that a file sets.
-/

namespace JavaTree

/-- Variables with their values. -/
abbrev Environment := List (String × String)

namespace EnvironmentFile

/-- A variable with its value; a variable may stand alone. -/
structure Binding where
  name : String
  value : Option String
  deriving Repr, DecidableEq

/-! ## Reading -/

/-- Whether a character is a blank within a line. -/
def isInlineBlank (c : Char) : Bool := isBlank c && c != '\n' && c != '\r'

/-- Whether a character ends a line. -/
def isBreak (c : Char) : Bool := c == '\n' || c == '\r'

/-- What is left after a beginning. -/
def after? : List Char → List Char → Option (List Char)
  | [], cs => some cs
  | _ :: _, [] => none
  | a :: as, c :: cs => if a == c then after? as cs else none

/-- What is left after the word that may stand before a name. -/
def skipExport (cs : List Char) : List Char :=
  match after? "export".toList cs with
  | some (c :: rest) => if isInlineBlank c then rest.dropWhile isInlineBlank else cs
  | _ => cs

/-- A reading that fails keeps what is left where it failed. -/
abbrev Reading (α : Type) := Except (List Char) (α × List Char)

/-- Reads a name; there is none before a comment. -/
def readName (cs : List Char) : Reading (Option String) :=
  match cs with
  | '#' :: _ => .ok (none, cs)
  | '\'' :: rest =>
    match rest.takeWhile (· != '\''), rest.dropWhile (· != '\'') with
    | c :: name, _ :: left => .ok (some (String.ofList (c :: name)), left)
    | _, _ => .error cs
  | _ =>
    let inName (c : Char) : Bool := c != '=' && c != '#' && !isBlank c
    match cs.takeWhile inName with
    | [] => .error cs
    | name => .ok (some (String.ofList name), cs.dropWhile inName)

/-- Finds the quote that ends a text: the first one without a backslash before it, or else the last
one.  `text` holds what has been read, backwards, and `last` what to fall back on. -/
def findQuote (mark : Char) (text : List Char) (last : Option (List Char × List Char)) :
    List Char → Option (List Char × List Char)
  | [] => last
  | '\\' :: c :: cs =>
    if c == mark then
      findQuote mark (c :: '\\' :: text) (some (('\\' :: text).reverse, cs)) cs
    else findQuote mark ('\\' :: text) last (c :: cs)
  | c :: cs => if c == mark then some (text.reverse, cs) else findQuote mark (c :: text) last cs

/-- What a character stands for after a backslash in single quotes. -/
def plainEscape? (c : Char) : Option Char := if c == '\\' || c == '\'' then some c else none

/-- What a character stands for after a backslash in double quotes. -/
def richEscape? : Char → Option Char
  | '\\' => some '\\'
  | '\'' => some '\''
  | '"' => some '"'
  | 'a' => some '\x07'
  | 'b' => some '\x08'
  | 'f' => some '\x0c'
  | 'n' => some '\n'
  | 'r' => some '\r'
  | 't' => some '\t'
  | 'v' => some '\x0b'
  | _ => none

/-- A text in which characters after backslashes are read as what they stand for. -/
def decodeEscapes (escape? : Char → Option Char) : List Char → List Char
  | '\\' :: c :: cs =>
    match escape? c with
    | some e => e :: decodeEscapes escape? cs
    | none => '\\' :: decodeEscapes escape? (c :: cs)
  | c :: cs => c :: decodeEscapes escape? cs
  | [] => []

/-- A text up to the first number sign that follows a blank. -/
def beforeComment (afterBlank : Bool) : List Char → List Char
  | [] => []
  | c :: cs =>
    if c == '#' && afterBlank then [] else c :: beforeComment (isBlank c) cs

/-- A list of characters without the blanks at its end. -/
def trimEnd (cs : List Char) : List Char := (trimStart cs.reverse).reverse

/-- Reads a value. -/
def readValue (cs : List Char) : Reading (List Char) :=
  match cs with
  | '\'' :: rest =>
    match findQuote '\'' [] none rest with
    | some (text, left) => .ok (decodeEscapes plainEscape? text, left)
    | none => .error cs
  | '"' :: rest =>
    match findQuote '"' [] none rest with
    | some (text, left) => .ok (decodeEscapes richEscape? text, left)
    | none => .error cs
  | _ =>
    let text := cs.takeWhile fun c => !isBreak c
    .ok (trimEnd (beforeComment false text), cs.dropWhile fun c => !isBreak c)

/-- Reads the end of a line, before which there may be a comment. -/
def readLineEnd (cs : List Char) : Except (List Char) (List Char) :=
  let rest := match cs.dropWhile isInlineBlank with
    | '#' :: comment => comment.dropWhile fun c => !isBreak c
    | _ => cs
  match rest.dropWhile isInlineBlank with
  | [] => .ok []
  | '\r' :: '\n' :: left => .ok left
  | c :: left => if isBreak c then .ok left else .error rest

/-- Reads a name, its value if it has one, and the end of the line. -/
def readBinding (cs : List Char) : Reading (Option Binding) :=
  match readName (skipExport cs) with
  | .error left => .error left
  | .ok (name, rest) =>
    let rest := rest.dropWhile isInlineBlank
    let value : Reading (Option (List Char)) := match rest with
      | '=' :: left =>
        match readValue (left.dropWhile isInlineBlank) with
        | .ok (v, left) => .ok (some v, left)
        | .error left => .error left
      | _ => .ok (none, rest)
    match value with
    | .error left => .error left
    | .ok (value, rest) =>
      match readLineEnd rest with
      | .error left => .error left
      | .ok left => .ok (name.map fun n => ⟨n, value.map String.ofList⟩, left)

/-- What is left after the current line. -/
def skipLine (cs : List Char) : List Char := (cs.dropWhile fun c => !isBreak c).drop 1

/-- The number of line ends among the characters that have been read. -/
def lineEnds (before left : List Char) : Nat :=
  (before.take (before.length - left.length)).countP isBreak

/-- What all lines say, and the numbers of those that cannot be read.  `fuel` bounds the number of
bindings. -/
def readBindings : Nat → Nat → List Char → List Binding × List Nat
  | 0, _, _ => ([], [])
  | fuel + 1, line, cs =>
    match cs with
    | [] => ([], [])
    | _ =>
      match trimStart cs with
      | [] => ([], [])
      | start =>
        match readBinding start with
        | .ok (b, left) =>
          let (bs, bad) := readBindings fuel (line + lineEnds cs left) left
          (b.toList ++ bs, bad)
        | .error left =>
          let left := skipLine left
          let (bs, bad) := readBindings fuel (line + lineEnds cs left) left
          (bs, line :: bad)

/-! ## Values -/

/-- Reads a reference to a variable after the dollar sign and the brace: its name, and the text that
stands for a variable without value. -/
def readReference (cs : List Char) : Option (String × String × List Char) :=
  let name := cs.takeWhile fun c => c != '\x7d' && c != ':'
  match cs.dropWhile fun c => c != '\x7d' && c != ':' with
  | '\x7d' :: left => some (String.ofList name, "", left)
  | ':' :: '-' :: rest =>
    match rest.dropWhile (· != '\x7d') with
    | _ :: left =>
      some (String.ofList name, String.ofList (rest.takeWhile (· != '\x7d')), left)
    | [] => none
  | _ => none

/-- A value with the values of variables put in; `fuel` bounds the number of steps. -/
def expand (lookup : String → Option String) : Nat → List Char → List Char
  | 0, cs => cs
  | _, [] => []
  | fuel + 1, '$' :: '\x7b' :: cs =>
    match readReference cs with
    | some (name, preset, left) =>
      ((lookup name).getD preset).toList ++ expand lookup fuel left
    | none => '$' :: expand lookup fuel ('\x7b' :: cs)
  | fuel + 1, c :: cs => c :: expand lookup fuel cs

/-- The values that bindings give to variables, with those before them put in. -/
def resolve (env : Environment) (bindings : List Binding) : List (String × Option String) :=
  bindings.foldl (fun (values : List (String × Option String)) b =>
    let find (name : String) : Option String :=
      match env.lookup name with
      | some v => some v
      | none => (values.lookup name).map (·.getD "")
    Entries.set values b.name
      (b.value.map fun v => String.ofList (expand find (v.length + 1) v.toList))) []

end EnvironmentFile

/-- An environment with the variables that the text of a file sets, as far as they are not set, and
the numbers of the lines that cannot be read. -/
def Environment.load (env : Environment) (text : String) : Environment × List Nat :=
  let (bindings, bad) := EnvironmentFile.readBindings (text.length + 1) 1 text.toList
  let values := (EnvironmentFile.resolve env bindings).filterMap fun (name, value) =>
    value.map fun v => (name, v)
  (env ++ values.filter fun e => (env.lookup e.1).isNone, bad)

end JavaTree
