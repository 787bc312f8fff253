import JavaTree.Grammar.Stack

/-!
# Parsing

The automaton is run on a source with all readings that are open at a time.  A source without a
reading is diagnosed: of the single repairs that make it readable the cheapest says where its
first mistake lies.

## Main definitions

* `Run` — a parse in progress; `Automaton.step` — one token for one version; `Automaton.rounds` —
  all versions, token by token.
* `Automaton.parse` — the reading of a source, or the `Mistake` in it.

## Implementation notes

The loops count down from bounds that the source gives: each round of `rounds` reads at least one
character with every version, and a version makes only so many reductions between two tokens as its
stack is high and the grammar has rules.
-/

namespace JavaTree.Grammar

/-- A parse in progress: the states known so far, the stacks, and the best complete reading. -/
structure Run where
  memo : Memo
  stack : Stack
  reading : Option Piece
  deriving Inhabited

/-- Where a source cannot be read: a token is absent at a position, or what stands there does not
fit. -/
inductive Mistake
  | missing (token : String) (position : Nat)
  | misfit (position : Nat)
  deriving Repr, DecidableEq, Inhabited

/-- The pieces without the comments at the end, and these comments. -/
def Piece.splitTrailing (parts : List Piece) : List Piece × List Piece :=
  let back := parts.reverse
  ((back.dropWhile Piece.comment).reverse, (back.takeWhile Piece.comment).reverse)

/-- Takes version `v` as having read everything up to `stop`: its readings compete with those found
before.  The start symbol's parts and the comments around it become the parts of one piece. -/
def Run.accept (r : Run) (v stop : Nat) : Run :=
  let readings := (r.stack.popAll (r.stack.top v)).filterMap fun d =>
    match Piece.splitTrailing d.pieces with
    | (parts, trailing) =>
      match parts.reverse with
      | .branch s k ps i _ w :: leading =>
        let all := leading.reverse ++ ps ++ trailing
        let start := (all.head?.map Piece.start).getD i
        some (Piece.branch s k all start (if all.isEmpty then start else stop) w)
      | _ => none
  let best := readings.foldl (fun (best : Option Piece) p =>
    match best with
    | none => some p
    | some old => if old.yieldsTo p then some p else some old) r.reading
  { r with reading := best, stack := r.stack.mark v .complete }

namespace Automaton

variable (a : Automaton) (source : Array Char)

/-! ## Reductions -/

/-- Finishes a production for one of several ways down to the same node: the reading that does not
give way to a later one, with the comments that come after it. -/
def chooseReading (production position : Nat) (ds : List Stack.Descent) :
    Option (Piece × List Piece) :=
  ds.foldl (fun best d =>
    let (parts, trailing) := Piece.splitTrailing d.pieces
    let piece := a.finish production parts position
    match best with
    | none => some (piece, trailing)
    | some (old, rest) => if old.yieldsTo piece then some (piece, trailing) else some (old, rest))
    none

/-- Finishes a production on version `v`.  Each node that the version leads down to gives a new
version, unless this meets an earlier one.  Gives the number of the first new version. -/
def reduce (production v : Nat) (r : Run) : Option Nat × Run :=
  let p := a.productions.getD production default
  let before := r.stack.versions.size
  let position := (r.stack.node (r.stack.top v)).stop
  let groups := Stack.groupByNode (r.stack.pop (r.stack.top v) p.steps.size)
  let r := groups.foldl (fun (r : Run) (base, ds) =>
    if maxVersionsWithin < r.stack.versions.size then r else
      match a.chooseReading production position ds with
      | none => r
      | some (piece, trailing) =>
        match a.move (r.stack.node base).state (a.ruleSymbol p.owner) r.memo with
        | (none, memo) => { r with memo := memo }
        | (some state, memo) =>
          let (n, stack) := trailing.foldl (fun (n, (stack : Stack)) c => stack.grow n c state)
            (r.stack.grow base piece state)
          let stack := match stack.merge n stack.versions.size v with
            | some merged => merged
            | none => { stack with versions := stack.versions.push ⟨n, .live⟩ }
          { r with memo := memo, stack := stack }) r
  (if before < r.stack.versions.size then some before else none, r)

/-! ## Steps -/

/-- Reads a token with version `v`: reductions first, as long as they are called for.  Where both
reducing and reading on are possible, the version itself reads on and the reductions go on as later
versions; without reading on, the last reduction takes the place of the version. -/
def step : Nat → Nat → Token → Run → Run
  | 0, v, _, r => { r with stack := r.stack.mark v .stuck }
  | fuel + 1, v, token, r =>
    let state := (r.stack.node (r.stack.top v)).state
    if (a.terminals.getD token.terminal default).comment then
      { r with stack := r.stack.push v (a.leaf token) state }
    else
      let (d, memo) := a.decision state token.terminal r.memo
      let r := { r with memo := memo }
      if d.reductions.contains 0 then r.accept v token.stop else
        let (last, r) := d.reductions.foldl (fun ((last : Option Nat), r) p =>
          let (n, r) := a.reduce p v r
          (n <|> last, r)) (none, r)
        match d.shift, last with
        | true, _ =>
          match a.move state token.terminal r.memo with
          | (some next, memo) =>
            { r with memo := memo, stack := r.stack.push v (a.leaf token) next }
          | (none, memo) => { r with memo := memo, stack := r.stack.mark v .stuck }
        | false, some n => step fuel v token { r with stack := r.stack.renumber n v }
        | false, none =>
          if (a.terminals.getD token.terminal default).keyword &&
              (r.memo.valid state).testBit a.word then
            step fuel v { token with terminal := a.word } r
          else { r with stack := r.stack.mark v .stuck }

/-- A bound on the reductions between two tokens. -/
def stepFuel (r : Run) : Nat := (r.stack.nodes.size + 2) * (a.kinds.size + 2)

/-- Reads the next token with version `v`. -/
def readToken (v : Nat) (r : Run) : Run :=
  let top := r.stack.node (r.stack.top v)
  match a.scan source (r.memo.valid top.state) top.stop with
  | none => { r with stack := r.stack.mark v .stuck }
  | some token => a.step (a.stepFuel r) v token r

/-- Reads tokens with version `v` until it is past `last`, the place that the versions before it
have come to; later versions stop at that place. -/
def catchUp : Nat → Nat → Run × Nat → Run × Nat
  | 0, _, (r, last) => (r, last)
  | fuel + 1, v, (r, last) =>
    let r := a.readToken source v r
    if (r.stack.versions.getD v default).progress != .live then (r, last) else
      let stop := (r.stack.node (r.stack.top v)).stop
      if last < stop || (0 < v && stop == last) then (r, stop) else catchUp fuel v (r, last)

/-- One turn of every version, those that arise on the way included. -/
def sweep : Nat → Nat → Run × Nat → Run × Nat
  | 0, _, x => x
  | fuel + 1, v, (r, last) =>
    if v < r.stack.versions.size then
      let x := if (r.stack.versions.getD v default).progress == .live then
          a.catchUp source (source.size + 2) v (r, last)
        else (r, last)
      sweep fuel (v + 1) x
    else (r, last)

/-- Runs all versions to the end of the source, or until all are stuck. -/
def rounds : Nat → Run × Nat → Run
  | 0, (r, _) => r
  | fuel + 1, (r, last) =>
    let (r, last) := a.sweep source (4 * maxVersionsWithin) 0 (r, last)
    let r := { r with stack := r.stack.condense }
    match r.stack.versions[0]? with
    | none => r
    | some v => if v.progress == .stuck then r else rounds fuel (r, last)

/-- Runs a parse from where it stands. -/
def runFrom (r : Run) (position : Nat) : Run := a.rounds source (2 * source.size + 16) (r, position)

/-! ## Diagnosis -/

/-- The parse that goes on from one node alone, in another state of affairs: what has been read
ends at `stop`. -/
def restart (r : Run) (n stop : Nat) : Run :=
  let node : Node := { r.stack.node n with stop := stop }
  { r with
    stack := { nodes := r.stack.nodes.push node, versions := #[⟨r.stack.nodes.size, .live⟩] }
    reading := none }

/-- Whether a parse comes to an end. -/
def completes (r : Run) (position : Nat) : Bool := (a.runFrom source r position).reading.isSome

/-- What a repair costs: a token too many costs by its length, an absent one a little more than a
short token. -/
def tokenCost (start stop : Nat) : Nat := 100 + (sliceText source start stop).utf8ByteSize

/-- The cost of an absent token. -/
def absentCost : Nat := 110

/-- The terminals that can be put in at node `n`, such that a production ends with them on the
lookahead and the rest can be read. -/
def insertion (r : Run) (n : Nat) : Option Nat :=
  let stop := (r.stack.node n).stop
  (List.range a.terminals.size).find? fun t =>
    t != 0 && !(a.terminals.getD t default).comment &&
      let r := restart r n stop
      let r := a.step (a.stepFuel r) 0 ⟨t, stop, stop⟩ r
      (List.range r.stack.versions.size).any fun v =>
        (r.stack.versions.getD v default).progress == .live &&
          let top := r.stack.node (r.stack.top v)
          match a.scan source (r.memo.valid top.state) top.stop with
          | none => false
          | some token =>
            !(a.decision top.state token.terminal r.memo).1.reductions.isEmpty &&
              a.completes source (restart r (r.stack.top v) stop) 0

/-- The mistake at which a parse is stuck: the cheapest repair among leaving out the next token,
leaving out the last token, and putting in a token. -/
def diagnose (r : Run) : Mistake :=
  let n := r.stack.top 0
  let top := r.stack.node n
  let i := skipBlanks a.blanks source top.stop
  let next := (a.scan source (r.memo.valid top.state) top.stop).getD
    ⟨0, i, min (i + 1) source.size⟩
  let candidates : List (Nat × Mistake) :=
    (if next.start < next.stop && a.completes source (restart r n next.stop) 0 then
      [(tokenCost source next.start next.stop, .misfit next.start)] else []) ++
    (match top.links[0]? with
      | some (⟨below, .token _ _ start stop _⟩ : Link) =>
        if a.completes source (restart r below top.stop) 0 then
          [(tokenCost source start stop, .misfit start)]
        else []
      | _ => []) ++
    (match a.insertion source r n with
      | some t => [(absentCost, .missing (a.terminals.getD t default).name top.stop)]
      | none => [])
  match candidates with
  | [] => .misfit next.start
  | c :: cs => (cs.foldl (fun best x => if x.1 < best.1 then x else best) c).2

/-- The reading of a source, or the mistake in it. -/
def parse : Except Mistake Piece :=
  let r := a.runFrom source ⟨a.memo, Stack.initial, none⟩ 0
  match r.reading with
  | some p => .ok p
  | none => .error (a.diagnose source r)

end Automaton

end JavaTree.Grammar
