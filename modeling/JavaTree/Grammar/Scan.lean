import JavaTree.Grammar.Automaton

/-!
# Tokens

Which token comes next depends on where the parser stands: only token classes that can follow are
looked for.  A text that spells a keyword is that keyword where it can follow, and a plain word
elsewhere.

## Main definitions

* `Token` — a token with its place in the source.
* `Automaton.scan` — the next token from a position, for a given set of terminals that can follow.
-/

namespace JavaTree.Grammar

/-- A token: its terminal and the positions of its first character and of the end. -/
structure Token where
  terminal : Nat
  start : Nat
  stop : Nat
  deriving Inhabited

/-- The first position from `i` on whose character is no blank. -/
def skipBlanks (blanks : CharSet) (source : Array Char) (i : Nat) : Nat :=
  if h : i < source.size then
    if blanks.contains source[i] then skipBlanks blanks source (i + 1) else i
  else i
  termination_by source.size - i

/-- The text between two positions. -/
def sliceText (source : Array Char) (start stop : Nat) : String :=
  String.ofList (source.extract start stop).toList

namespace Automaton

variable (a : Automaton)

/-- Whether terminal `t` is looked for: it can follow, or it may stand anywhere, or it is the word
class and some keyword can follow. -/
def soughtIn (valid : Nat) (t : Nat) (c : Terminal) : Bool :=
  !c.keyword && (valid.testBit t || c.comment || (t == a.word && valid &&& a.wordLike != 0))

/-- A match of a terminal: its end and the terminal's number. -/
structure Match where
  stop : Nat
  terminal : Nat

/-- Whether the first of two matches is preferred: by the rank of the terminal, then by length; of
two equally long ones a literal token is preferred to a class, and else the terminal that comes
first. -/
def preferred (x y : Match) : Bool :=
  let c := a.terminals.getD x.terminal default
  let d := a.terminals.getD y.terminal default
  if c.rank != d.rank then d.rank < c.rank
  else if x.stop != y.stop then y.stop < x.stop
  else if c.literal != d.literal then c.literal
  else x.terminal ≤ y.terminal

/-- The preferred match at position `i` among the terminals that are looked for. -/
def matchAt (source : Array Char) (valid : Nat) (immediate : Bool) (i : Nat) : Option Match :=
  (List.range a.terminals.size).foldl (fun best t =>
    let c := a.terminals.getD t default
    if a.soughtIn valid t c && (immediate || !c.immediate) then
      match c.pattern.longest source i with
      | none => best
      | some stop =>
        if stop == i then best else
          match best with
          | none => some ⟨stop, t⟩
          | some other => if a.preferred ⟨stop, t⟩ other then some ⟨stop, t⟩ else best
    else best) none

/-- The token for a match: a word that spells a keyword that can follow is that keyword. -/
def tokenFor (source : Array Char) (valid : Nat) (start : Nat) (m : Match) : Token :=
  if m.terminal == a.word then
    match a.keywords[sliceText source start m.stop]? with
    | some k => if valid.testBit k then ⟨k, start, m.stop⟩ else ⟨m.terminal, start, m.stop⟩
    | none => ⟨m.terminal, start, m.stop⟩
  else ⟨m.terminal, start, m.stop⟩

/-- The next token from position `i` on, if any token class matches there.  Immediate token classes
match only at `i` itself, the others also after blanks. -/
def scan (source : Array Char) (valid : Nat) (i : Nat) : Option Token :=
  match a.matchAt source valid true i with
  | some m => some (a.tokenFor source valid i m)
  | none =>
    let j := skipBlanks a.blanks source i
    if j == source.size then some ⟨0, j, j⟩
    else if j == i then none
    else (a.matchAt source valid false j).map (a.tokenFor source valid j)

end Automaton

end JavaTree.Grammar
