import JavaTree.Grammar.Parse
import JavaTree.Java.Grammar
import JavaTree.Syntax.Tree

/-!
# Reading Java sources

The syntax tree of a Java source.  A source that is no Java gives a tree that consists of its
mistake.

## Main definitions

* `Java.nodeKinds` — the kinds of named nodes.
* `Java.pointAt` — the place of a position in a source.
* `Java.treeOf` — the tree for the outcome of a parse.
* `Java.parse` — the tree of a source.

## Implementation notes

`Java.parse` is irreducible: it is opened by name only, since a parse of a source that is not known
can be unfolded without end.
-/

namespace JavaTree

open Grammar

namespace Grammar.Piece

mutual

/-- The nodes that a piece stands for: itself if it has a kind, else the nodes of its parts. -/
def toTrees (source : Array Char) : Piece → List SyntaxTree
  | token _ none _ _ _ => []
  | token _ (some kind) i j _ => [{ kind, text := sliceText source i j }]
  | branch _ none parts _ _ _ => allTrees source parts
  | branch _ (some kind) parts i j _ =>
    [{ kind, text := sliceText source i j, children := allTrees source parts }]

/-- The nodes that a list of pieces stands for. -/
def allTrees (source : Array Char) : List Piece → List SyntaxTree
  | [] => []
  | p :: ps => toTrees source p ++ allTrees source ps

end

end Grammar.Piece

namespace Java

/-- The kinds of named nodes, in code point order. -/
def nodeKinds : List String :=
  let rules := automaton.kinds.toList.filterMap id
  let tokens := (automaton.terminals.toList.filter (·.visible)).map (·.name)
  let given := automaton.productions.toList.flatMap fun p => p.steps.toList.filterMap (·.kind)
  ((rules ++ tokens ++ given).eraseDups).mergeSort (· ≤ ·)

/-- The number of bytes that a character takes. -/
def byteLength (c : Char) : Nat := c.utf8Size

/-- The place of a position in a source: the lines before it, and the bytes before it in its
line. -/
def pointAt (source : Array Char) (position : Nat) : Point :=
  (source.extract 0 position).foldl
    (fun p c => if c == '\n' then ⟨p.row + 1, 0⟩ else ⟨p.row, p.column + byteLength c⟩) ⟨0, 0⟩

/-- The kind of the tree of a source. -/
def rootKind : String := "program"

/-- A tree that consists of one mistake. -/
def mistaken (source : Array Char) : Mistake → SyntaxTree
  | .missing token position =>
    { kind := rootKind, hasError := true
      children := [{ kind := token, missing := true, start := pointAt source position,
                     hasError := true }] }
  | .misfit position =>
    { kind := rootKind, hasError := true
      children := [{ kind := SyntaxTree.errorKind, start := pointAt source position,
                     hasError := true }] }

/-- The source with a blank in the place of a byte order mark at its start, which takes up no
place. -/
def blankMark (source : Array Char) : Array Char :=
  match source[0]? with
  | some c => if c == '\uFEFF' then source.set! 0 ' ' else source
  | none => source

/-- The tree for what comes out when `blanked` is parsed in the place of `source`. -/
def treeOf (source blanked : Array Char) : Except Mistake Piece → SyntaxTree
  | .ok piece => ((piece.toTrees blanked).head?).getD { kind := rootKind }
  | .error mistake => mistaken source mistake

/-- The tree of a source. -/
@[irreducible]
def parse (text : String) : SyntaxTree :=
  let source := text.toList.toArray
  treeOf source (blankMark source) (automaton.parse (blankMark source))

end Java

end JavaTree
