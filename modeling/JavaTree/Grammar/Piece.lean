import JavaTree.Grammar.Scan

/-!
# Pieces of a tree under construction

What the parser keeps on its stack: tokens and finished productions, including those that are no
nodes of the final tree.  Of two readings of the same text one is chosen.

## Main definitions

* `Piece` — a token or a finished production.
* `Piece.weight` — what the readings of ambiguous texts are compared by first.
* `Piece.compare`, `Piece.yieldsTo` — the order between two readings of the same text.
-/

namespace JavaTree.Grammar

/-- A token or a finished production.  `kind` is the node kind; a piece without kind is no node,
and its parts belong to the node around it. -/
inductive Piece
  | token (symbol : Nat) (kind : Option String) (start stop : Nat) (comment : Bool)
  | branch (symbol : Nat) (kind : Option String) (parts : List Piece) (start stop : Nat)
      (weight : Int)
  deriving Inhabited

namespace Piece

/-- The symbol of a piece. -/
def symbol : Piece → Nat
  | token s .. => s
  | branch s .. => s

/-- The position of the first character. -/
def start : Piece → Nat
  | token _ _ i _ _ => i
  | branch _ _ _ i _ _ => i

/-- The position of the end. -/
def stop : Piece → Nat
  | token _ _ _ j _ => j
  | branch _ _ _ _ j _ => j

/-- Whether the piece is a comment. -/
def comment : Piece → Bool
  | token _ _ _ _ c => c
  | branch .. => false

/-- The parts of a piece. -/
def parts : Piece → List Piece
  | token .. => []
  | branch _ _ ps _ _ _ => ps

/-- The weights of the productions of a piece, added up. -/
def weight : Piece → Int
  | token .. => 0
  | branch _ _ _ _ _ w => w

/-- The piece as a node of the given kind, if any. -/
def withKind (kind : Option String) (p : Piece) : Piece :=
  match kind, p with
  | none, p => p
  | some k, token s _ i j c => token s (some k) i j c
  | some k, branch s _ ps i j w => branch s (some k) ps i j w

mutual

/-- Compares the symbols of two pieces, then the numbers of their parts, then the parts. -/
def compare : Piece → Piece → Ordering
  | token s _ _ _ _, q => (Ord.compare s q.symbol).then (Ord.compare 0 q.parts.length)
  | branch s _ ps _ _ _, q =>
    ((Ord.compare s q.symbol).then (Ord.compare ps.length q.parts.length)).then
      (compareAll ps q.parts)

/-- Compares lists of pieces, the first difference deciding. -/
def compareAll : List Piece → List Piece → Ordering
  | p :: ps, q :: qs => (compare p q).then (compareAll ps qs)
  | _, _ => .eq

end

/-- Whether the first of two readings of a text gives way to the second: the heavier one stays; of
two equally heavy ones the smaller one in the order of `compare`. -/
def yieldsTo (p q : Piece) : Bool :=
  if p.weight != q.weight then p.weight < q.weight else p.compare q == .gt

/-- Whether two pieces cover the same text as the same symbol with as many parts. -/
def sameShape (p q : Piece) : Bool :=
  p.symbol == q.symbol && p.start == q.start && p.stop == q.stop &&
    p.parts.length == q.parts.length && p.comment == q.comment

end Piece

namespace Automaton

/-- The piece of a finished production over the given parts, which are told what kind their place
gives them.  Comments among the parts take no place.  `position` is where a production without
parts stands. -/
def finish (a : Automaton) (production : Nat) (parts : List Piece) (position : Nat) : Piece :=
  let p := a.productions.getD production default
  let named := parts.foldl (fun (done, i) (part : Piece) =>
    if part.comment then (part :: done, i)
    else (part.withKind ((p.steps[i]?).bind (·.kind)) :: done, i + 1)) (([] : List Piece), 0)
  .branch (a.ruleSymbol p.owner) (a.kinds.getD p.owner none) named.1.reverse
    ((parts.head?.map Piece.start).getD position) ((parts.getLast?.map Piece.stop).getD position)
    (p.weight + (parts.map Piece.weight).foldl (· + ·) 0)

/-- The piece of a token. -/
def leaf (a : Automaton) (t : Token) : Piece :=
  let c := a.terminals.getD t.terminal default
  .token t.terminal (if c.visible then some c.name else none) t.start t.stop c.comment

end Automaton

end JavaTree.Grammar
