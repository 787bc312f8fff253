import JavaTree.Grammar.Piece

/-!
# Graph-structured stacks

While it is open how a text is to be read, the parser follows several readings at once.  Their
stacks share what they have in common: a node of the graph is the top of a stack, and its links
lead to what may lie below.  A reading in progress is a *version*, the node at its top.

## Main definitions

* `Link`, `Node`, `Version`, `Stack` — the graph and its versions.
* `Stack.push` — a piece on top of a version.
* `Stack.merge` — two versions in the same state at the same place become one.
* `Stack.pop` — the ways to take a number of pieces off a node.
* `Stack.condense` — merges versions after each token and drops those that cannot go on.

## Implementation notes

Versions are ordered: where two readings of the same text are merged that have the same shape and
weight, the reading of the earlier version stays.
-/

namespace JavaTree.Grammar

/-- A piece and the node that lies below it. -/
structure Link where
  below : Nat
  piece : Piece
  deriving Inhabited

/-- A stack top: the state of the automaton there, where the text read so far ends, the weight of
the heaviest way down, and the ways down. -/
structure Node where
  state : Nat
  stop : Nat
  weight : Int
  links : Array Link
  deriving Inhabited

/-- Where a reading stands: it goes on, it has found no way to go on, or it has read everything. -/
inductive Progress
  | live
  | stuck
  | complete
  deriving DecidableEq, Inhabited

/-- A reading in progress. -/
structure Version where
  node : Nat
  progress : Progress
  deriving Inhabited

/-- The nodes and the versions, the earlier ones first. -/
structure Stack where
  nodes : Array Node
  versions : Array Version
  deriving Inhabited

/-- The number of versions that are followed beyond a token. -/
def maxVersions : Nat := 6

/-- The number of versions that may arise while a token is read. -/
def maxVersionsWithin : Nat := 10

/-- The number of ways down that a node keeps. -/
def maxLinks : Nat := 8

namespace Stack

/-- The stack of a parse that has read nothing. -/
def initial : Stack := ⟨#[⟨0, 0, 0, #[]⟩], #[⟨0, .live⟩]⟩

/-- The node at the top of version `v`. -/
def top (s : Stack) (v : Nat) : Nat := (s.versions.getD v default).node

/-- A node by number. -/
def node (s : Stack) (n : Nat) : Node := s.nodes.getD n default

/-- Adds a node with one way down, above the node `below`; gives its number. -/
def grow (s : Stack) (below : Nat) (piece : Piece) (state : Nat) : Nat × Stack :=
  let under := s.node below
  let node : Node :=
    ⟨state, max under.stop piece.stop, under.weight + piece.weight, #[⟨below, piece⟩]⟩
  (s.nodes.size, { s with nodes := s.nodes.push node })

/-- Puts a piece on top of version `v`. -/
def push (s : Stack) (v : Nat) (piece : Piece) (state : Nat) : Stack :=
  let (n, s) := s.grow (s.top v) piece state
  { s with versions := s.versions.set! v ⟨n, .live⟩ }

/-- Records where version `v` stands. -/
def mark (s : Stack) (v : Nat) (progress : Progress) : Stack :=
  { s with versions := s.versions.modify v fun x => { x with progress := progress } }

/-- Moves version `n` to the place of version `v`. -/
def renumber (s : Stack) (n v : Nat) : Stack :=
  { s with versions := (s.versions.set! v (s.versions.getD n default)).eraseIdxIfInBounds n }

/-! ## Merging -/

/-- Adds a way down to node `n`.  If there is one already with a piece of the same shape, then
either both lead to the same node, and the heavier piece stays; or they lead to nodes in the same
state at the same place, and these are merged in turn. -/
def addLink : Nat → Array Node → Nat → Link → Array Node
  | 0, nodes, _, _ => nodes
  | fuel + 1, nodes, n, link =>
    if link.below == n then nodes else
      let target := nodes.getD n default
      let under := nodes.getD link.below default
      let meets (old : Link) : Bool :=
        old.piece.sameShape link.piece &&
          (old.below == link.below ||
            ((nodes.getD old.below default).state == under.state &&
              (nodes.getD old.below default).stop == under.stop))
      match target.links.findIdx? meets with
      | some i =>
        let old := target.links.getD i default
        if old.below == link.below then
          if old.piece.weight < link.piece.weight then
            nodes.set! n { target with
              links := target.links.set! i link, weight := under.weight + link.piece.weight }
          else nodes
        else
          let nodes := under.links.foldl (fun nodes l => addLink fuel nodes old.below l) nodes
          nodes.modify n fun t =>
            { t with weight := max t.weight (under.weight + link.piece.weight) }
      | none =>
        if target.links.size < maxLinks then
          nodes.set! n { target with
            links := target.links.push link
            weight := max target.weight (under.weight + link.piece.weight) }
        else nodes

/-- Whether two nodes are in the same state at the same place. -/
def meet (s : Stack) (m n : Nat) : Bool :=
  (s.node m).state == (s.node n).state && (s.node m).stop == (s.node n).stop

/-- Adds the ways down of node `n` to node `m`. -/
def absorb (s : Stack) (m n : Nat) : Stack :=
  { s with nodes := (s.node n).links.foldl (fun nodes l => addLink s.nodes.size nodes m l) s.nodes }

/-- Merges node `n` into the first version, among those before `bound` and other than `except`, that
is in the same state at the same place; gives nothing when there is none. -/
def merge (s : Stack) (n bound except : Nat) : Option Stack :=
  ((List.range (min bound s.versions.size)).find? fun j =>
    j != except && (s.versions.getD j default).progress == .live && s.meet (s.top j) n).map fun j =>
      s.absorb (s.top j) n

/-! ## Popping -/

/-- A way down in progress: the node reached, the pieces taken off so far, the lowest first, and how
many of them are no comments. -/
structure Descent where
  node : Nat
  pieces : List Piece
  count : Nat
  deriving Inhabited

/-- One step down along a link. -/
def Descent.follow (d : Descent) (l : Link) : Descent :=
  ⟨l.below, l.piece :: d.pieces, if l.piece.comment then d.count else d.count + 1⟩

/-- Follows all ways down at the same pace until each has taken off as many pieces as `done` asks
for, or has come to the ground.  The first way down of a node goes on in the place of the way that
led there, the others come after all that are under way. -/
def descend (s : Stack) (done : Descent → Bool) : Nat → List Descent → List Descent
  | 0, _ => []
  | _, [] => []
  | fuel + 1, ds =>
    let finished := ds.filter done
    let under := ds.filter fun d => !done d
    let firsts := under.filterMap fun d =>
      ((s.node d.node).links[0]?).map d.follow
    let others := under.flatMap fun d =>
      ((s.node d.node).links.toList.drop 1).map d.follow
    finished ++ descend s done fuel (firsts ++ others)

/-- The ways to take `count` pieces, comments not counted, off node `n`. -/
def pop (s : Stack) (n count : Nat) : List Descent :=
  s.descend (fun d => d.count == count) (s.nodes.size + 1) [⟨n, [], 0⟩]

/-- The ways from node `n` down to the ground. -/
def popAll (s : Stack) (n : Nat) : List Descent :=
  s.descend (fun d => (s.node d.node).links.isEmpty) (s.nodes.size + 1) [⟨n, [], 0⟩]

/-- Groups ways down by the node that they reach, in order of first appearance. -/
def groupByNode (ds : List Descent) : List (Nat × List Descent) :=
  ((ds.map (·.node)).eraseDups).map fun n => (n, ds.filter fun d => d.node == n)

/-! ## Condensing -/

/-- How two versions compare: a stuck one loses against one that is not; else weight decides. -/
inductive Preference
  | takeFirst
  | preferFirst
  | preferSecond
  | takeSecond
  deriving DecidableEq

/-- The preference between versions given by whether they are stuck and by their weights. -/
def prefer (first second : Bool × Int) : Preference :=
  match first.1, second.1 with
  | false, true => .takeFirst
  | true, false => .takeSecond
  | _, _ => if first.2 < second.2 then .preferSecond else .preferFirst

/-- Compares a version with the earlier ones, from number `j` on.  Either it is merged into one of
them, or it is dropped, or it comes last; a version that is preferred to an earlier one takes its
place, and a version that loses against it is dropped. -/
def settle : Nat → Stack → (status : Bool × Int) → Version → Nat → Stack
  | 0, s, _, x, _ => { s with versions := s.versions.push x }
  | fuel + 1, s, status, x, j =>
    if j < s.versions.size then
      let y := s.versions.getD j default
      let mergeable := x.progress == .live && y.progress == .live && s.meet y.node x.node
      match prefer (y.progress == .stuck, (s.node y.node).weight) status with
      | .takeFirst => s
      | .takeSecond => settle fuel { s with versions := s.versions.eraseIdxIfInBounds j } status x j
      | .preferFirst => if mergeable then s.absorb y.node x.node else settle fuel s status x (j + 1)
      | .preferSecond =>
        if mergeable then s.absorb y.node x.node
        else settle fuel { s with versions := s.versions.set! j x } status y (j + 1)
    else { s with versions := s.versions.push x }

/-- Drops complete versions, merges those that have come to the same state at the same place, drops
stuck ones beside others, and keeps the first `maxVersions`. -/
def condense (s : Stack) : Stack :=
  let versions := s.versions.filter fun x => x.progress != .complete
  let s := versions.foldl (fun (done : Stack) x =>
    settle (versions.size * versions.size + 1) done
      (x.progress == .stuck, (done.node x.node).weight) x 0)
    { s with versions := #[] }
  { s with versions := s.versions.extract 0 maxVersions }

end Stack

end JavaTree.Grammar
