import JavaTree.Text.CharSet

/-!
# Lexical patterns

A token class is described by a regular pattern over characters.  Matching is by derivatives: what
is left of a pattern after a character is again a pattern, so the longest match needs no automaton.

## Main definitions

* `Pattern` — regular patterns; `Pattern.text`, `Pattern.optional`, `Pattern.many1`,
  `Pattern.separated` — the usual combinations.
* `Pattern.nullable`, `Pattern.derive` — acceptance of the empty text, and what remains after a
  character.
* `Pattern.longest` — where the longest match from a position ends.
-/

namespace JavaTree.Grammar

/-- A regular pattern over characters. -/
inductive Pattern
  | never
  | blank
  | oneOf (set : CharSet)
  | noneOf (set : CharSet)
  | seq (first second : Pattern)
  | alt (left right : Pattern)
  | star (body : Pattern)
  deriving Repr, Inhabited

namespace Pattern

/-! ## Combinations -/

/-- One given character. -/
def char (c : Char) : Pattern := .oneOf (.single c)

/-- Any one of the characters of a text. -/
def anyOf (text : String) : Pattern := .oneOf (.ofString text)

/-- All patterns of a list, one after the other. -/
def seqs (ps : List Pattern) : Pattern := ps.foldr .seq .blank

/-- One of the patterns of a list. -/
def alts (ps : List Pattern) : Pattern := ps.foldr .alt .never

/-- Exactly the characters of a text. -/
def text (s : String) : Pattern := seqs (s.toList.map char)

/-- The pattern or nothing. -/
def optional (p : Pattern) : Pattern := .alt p .blank

/-- The pattern once or more. -/
def many1 (p : Pattern) : Pattern := .seq p (.star p)

/-- The pattern once or more, with a separator between two occurrences. -/
def separated (separator p : Pattern) : Pattern := .seq p (.star (.seq separator p))

/-- The pattern `n` times. -/
def times (p : Pattern) : Nat → Pattern
  | 0 => .blank
  | n + 1 => .seq p (times p n)

/-! ## Matching by derivatives -/

/-- Whether the empty text matches. -/
def nullable : Pattern → Bool
  | never => false
  | blank => true
  | oneOf _ => false
  | noneOf _ => false
  | seq p q => p.nullable && q.nullable
  | alt p q => p.nullable || q.nullable
  | star _ => true

/-- `seq` that drops patterns without effect. -/
def seqSimple : Pattern → Pattern → Pattern
  | never, _ => never
  | blank, q => q
  | _, never => never
  | p, q => seq p q

/-- `alt` that drops patterns without effect. -/
def altSimple : Pattern → Pattern → Pattern
  | never, q => q
  | p, never => p
  | p, q => alt p q

/-- What must follow when the character `c` has been read. -/
def derive (c : Char) : Pattern → Pattern
  | never => never
  | blank => never
  | oneOf s => if s.contains c then blank else never
  | noneOf s => if s.contains c then never else blank
  | seq p q =>
    let first := seqSimple (p.derive c) q
    if p.nullable then altSimple first (q.derive c) else first
  | alt p q => altSimple (p.derive c) (q.derive c)
  | star p => seqSimple (p.derive c) (star p)

/-- Whether no text matches, as far as simplification shows it. -/
def isNever : Pattern → Bool
  | never => true
  | _ => false

/-- The end of the longest match that starts with what is left of a pattern at position `i`;
`best` is the end found so far. -/
def longestFrom (source : Array Char) (p : Pattern) (i : Nat) (best : Option Nat) : Option Nat :=
  let best := if p.nullable then some i else best
  if h : i < source.size then
    let rest := p.derive source[i]
    if rest.isNever then best else longestFrom source rest (i + 1) best
  else best
  termination_by source.size - i

/-- Where the longest match from position `i` ends. -/
def longest (p : Pattern) (source : Array Char) (i : Nat) : Option Nat :=
  p.longestFrom source i none

/-- Whether the whole text matches. -/
def accepts (p : Pattern) (text : String) : Bool :=
  (text.toList.foldl (fun q c => q.derive c) p).nullable

end Pattern

end JavaTree.Grammar
