/-!
# Syntax trees

The tree of a source text: every node has a kind and the text it covers.  Nodes for punctuation and
keywords are unnamed.  A tree can hold mistakes: nodes of the kind `ERROR`, and nodes for tokens
that are missing in the source.

## Main definitions

* `Point`, `SyntaxTree` — places in a source, and trees.
* `SyntaxTree.size` — the number of nodes of a tree.
* `SyntaxTree.isMistake`, `SyntaxTree.findMistake` — nodes that are mistakes, and the first one that
  is reached from the root through nodes that are marked as holding one.  Sources may be nested
  deeper than a stack allows, so it is searched for with a list of pending trees.
* `SyntaxTree.Faithful` — the marks are right everywhere.
-/

namespace JavaTree

/-- A place in a source: line and byte in the line, both from zero. -/
structure Point where
  row : Nat
  column : Nat
  deriving Repr, DecidableEq, Inhabited

/-- A node of a syntax tree with what is below it. -/
structure SyntaxTree where
  kind : String
  text : String := ""
  named : Bool := true
  missing : Bool := false
  start : Point := ⟨0, 0⟩
  /-- The mark that there is a mistake at the node or below it. -/
  hasError : Bool := false
  children : List SyntaxTree := []
  deriving Inhabited

namespace SyntaxTree

/-- The kind of nodes for text that does not fit. -/
def errorKind : String := "ERROR"

/-- Whether the node itself is a mistake. -/
def isMistake (t : SyntaxTree) : Bool := t.kind == errorKind || t.missing

mutual

/-- The number of nodes of a tree. -/
def size : SyntaxTree → Nat
  | ⟨_, _, _, _, _, _, children⟩ => sizeAll children + 1

/-- The number of nodes of a list of trees. -/
def sizeAll : List SyntaxTree → Nat
  | [] => 0
  | t :: ts => size t + sizeAll ts

end

/-- The size of a tree is one more than that of its children. -/
theorem size_eq (t : SyntaxTree) : t.size = sizeAll t.children + 1 := by
  cases t
  rfl

/-- Sizes of trees add up. -/
theorem sizeAll_append (ts us : List SyntaxTree) :
    sizeAll (ts ++ us) = sizeAll ts + sizeAll us := by
  induction ts with
  | nil => simp [sizeAll]
  | cons t ts ih => simp [sizeAll, ih, Nat.add_assoc]

/-- The first mistake that is met when pending trees are taken up one after the other.  The children
of a tree that is marked, and no mistake itself, become pending in its stead. -/
def findMistakeIn? : List SyntaxTree → Option SyntaxTree
  | [] => none
  | t :: rest =>
    if t.isMistake then some t
    else if t.hasError then findMistakeIn? (t.children ++ rest)
    else findMistakeIn? rest
termination_by pending => sizeAll pending
decreasing_by
  all_goals
    have ht := t.size_eq
    simp only [sizeAll, sizeAll_append]
    omega

/-- The node to report for a tree that is marked: the first mistake that is met from the root, or
the root. -/
def findMistake (t : SyntaxTree) : SyntaxTree := (findMistakeIn? [t]).getD t

mutual

/-- A tree whose marks are right: a node is marked exactly when it is a mistake or has a marked
child. -/
def Faithful : SyntaxTree → Prop
  | ⟨kind, _, _, missing, _, hasError, children⟩ =>
    (hasError = true ↔ (kind = errorKind ∨ missing = true) ∨ ∃ c ∈ children, c.hasError = true) ∧
      AllFaithful children

/-- All trees of a list have right marks. -/
def AllFaithful : List SyntaxTree → Prop
  | [] => True
  | t :: ts => Faithful t ∧ AllFaithful ts

end

end SyntaxTree

end JavaTree
