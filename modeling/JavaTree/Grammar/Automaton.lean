import Std.Data.HashMap
import JavaTree.Grammar.Pattern
import JavaTree.Grammar.Rule

/-!
# Parsing automata

From a grammar to the states of its canonical LR(1) automaton.  A state is a set of items with
their lookaheads; successors are computed when a parse first asks for them and are kept in a
`Memo`.  Where several actions are possible, precedences and associativities of the rules decide;
what they leave open stays open, and the parser follows every possibility.

## Main definitions

* `RuleSet` — token classes and rules; `Automaton` — the same, numbered and indexed.
* `RuleSet.compile` — from the one to the other.
* `State`, `Automaton.close`, `Automaton.advance` — states and their successors.
* `Decision`, `Automaton.decide` — what to do in a state on a lookahead.
* `Memo`, `Automaton.move`, `Automaton.decision` — states and decisions by number, each computed
  once.

## Implementation notes

Sets of terminals are natural numbers, one bit for each terminal.  Symbols are numbered, terminals
first.  An item is a production and a position in it; items of one rule that have consumed
different symbols but have the same steps ahead count as one item.
-/

namespace JavaTree.Grammar

/-! ## Grammars -/

/-- A class of tokens.  `rank` settles which class a text belongs to before length does; an
`immediate` token follows without blanks; only a `visible` one is a node of the tree. -/
structure TokenClass where
  name : String
  pattern : Pattern
  rank : Int := 0
  immediate : Bool := false
  visible : Bool := true
  deriving Inhabited

/-- A grammar.  The first rule is the start rule.  A word that the literal token of a rule spells
is a keyword; where the keyword cannot stand, it is a `word` like any other.  Rules whose name
starts with an underscore and `unseen` rules are no nodes of the tree.  `comments` and `blanks` may
stand anywhere. -/
structure RuleSet where
  blanks : CharSet
  tokens : List TokenClass
  word : String
  comments : List String
  unseen : List String
  rules : List (String × Rule)
  deriving Inhabited

/-- A terminal of the automaton: a token class or a literal token. -/
structure Terminal where
  name : String
  pattern : Pattern
  rank : Int
  immediate : Bool
  visible : Bool
  literal : Bool
  keyword : Bool
  comment : Bool
  deriving Inhabited

/-- A right-hand side of the rule `owner`. -/
structure Production where
  owner : Nat
  steps : Array (Step Nat)
  weight : Int
  deriving Inhabited

/-- That a rule `symbol` can start where another one starts; it is followed by `after`, and also by
what follows the other one if it `inherits`. -/
structure Start where
  symbol : Nat
  after : Nat
  inherits : Bool
  deriving Inhabited

/-- A grammar, numbered and indexed.  Terminal 0 is the end of the input, rule 0 the start. -/
structure Automaton where
  blanks : CharSet
  terminals : Array Terminal
  word : Nat
  keywords : Std.HashMap String Nat
  /-- The terminals that a word can be. -/
  wordLike : Nat
  kinds : Array (Option String)
  productions : Array Production
  /-- For each symbol, the terminals its text can start with. -/
  first : Array Nat
  /-- For each rule, the rules that can start where it starts. -/
  starts : Array (Array Start)
  /-- For each symbol, the productions that begin with it. -/
  leading : Array (Array Nat)
  /-- For each production and position, the production that stands for the item. -/
  canonical : Array (Array Nat)
  /-- The productions without steps. -/
  empties : Array Nat
  deriving Inhabited

/-! ## Compilation -/

/-- The set that holds one terminal. -/
def bit (t : Nat) : Nat := 1 <<< t

/-- Rules with every repetition a rule of its own, after the given ones. -/
def flattenRepeats (rules : List (String × Rule)) : List (String × Rule) × Array Rule :=
  rules.foldl (fun (done, bodies) (name, rule) =>
    let (rule, bodies) := rule.liftRepeats bodies
    (done ++ [(name, rule)], bodies)) ([], #[])

/-- The literal tokens of a list of right-hand sides, in order of appearance. -/
def literals (sequences : List Sequence) : List String :=
  (sequences.flatMap fun s => s.steps.filterMap fun t =>
    match t.symbol with
    | .lit text => some text
    | _ => none).eraseDups

/-- The terminals that each symbol can start with: the least solution, by iteration. -/
def firstSets (terminals nonterminals : Nat) (productions : Array Production) : Array Nat :=
  let initial := (Array.range (terminals + nonterminals)).map fun s =>
    if s < terminals then bit s else 0
  (List.range (nonterminals + 1)).foldl (fun sets _ =>
    productions.foldl (fun sets p =>
      match p.steps[0]? with
      | some t => sets.modify (terminals + p.owner) (· ||| sets.getD t.symbol 0)
      | none => sets) sets) initial

/-- The rules that can start where `rule` starts.  `todo` lists the rules whose productions are
still to be looked at. -/
def startsOf (terminals : Nat) (productionsOf : Array (Array Production)) (first : Array Nat) :
    Nat → List Nat → Array (Option Start) → Array (Option Start)
  | 0, _, found => found
  | _, [], found => found
  | fuel + 1, rule :: todo, found =>
    let here := (found.getD rule none).getD ⟨rule, 0, true⟩
    let (todo, found) := (productionsOf.getD rule #[]).foldl (fun (todo, found) p =>
      match p.steps[0]? with
      | none => (todo, found)
      | some t =>
        if t.symbol < terminals then (todo, found) else
          let m := t.symbol - terminals
          let (after, inherits) := match p.steps[1]? with
            | some u => (first.getD u.symbol 0, false)
            | none => (here.after, here.inherits)
          match found.getD m none with
          | none => (m :: todo, found.set! m (some ⟨m, after, inherits⟩))
          | some old =>
            let new : Start := ⟨m, old.after ||| after, old.inherits || inherits⟩
            if new.after == old.after && new.inherits == old.inherits then (todo, found)
            else (m :: todo, found.set! m (some new))) (todo, found)
    startsOf terminals productionsOf first fuel todo found

/-- Whether two items of productions of one rule, both at position `dot`, have the same steps ahead
and are finished in the same way. -/
def sameItem (p q : Production) (dot : Nat) : Bool :=
  p.owner == q.owner && p.steps.size == q.steps.size && p.weight == q.weight &&
    (List.range p.steps.size).all fun i =>
      match p.steps[i]?, q.steps[i]? with
      | some s, some t =>
        if i < dot then
          s.kind == t.kind && (i + 1 != dot || (s.level == t.level && s.assoc == t.assoc))
        else s == t
      | _, _ => false

/-- The production that stands for the item at position `dot` of production `i`: the first one with
the same item. -/
def canonicalItem (productions : Array Production) (byOwner : Array (Array Nat)) (i dot : Nat) :
    Nat :=
  let p := productions.getD i default
  ((byOwner.getD p.owner #[]).find? fun j =>
    if dot == 0 then j == i else sameItem p (productions.getD j default) dot).getD i

/-- Numbers and indexes a grammar. -/
def RuleSet.compile (g : RuleSet) : Automaton :=
  let (rules, bodies) := flattenRepeats g.rules
  let startName := (g.rules.head?.map (·.1)).getD ""
  let repeats := bodies.toList.mapIdx fun i body =>
    (Rule.alt (.seq (.repeated i) body) body).sequences
  let start : List Sequence := (Rule.ref startName).sequences
  let sequences : List (List Sequence) := start :: (rules.map fun r => r.2.sequences) ++ repeats
  let lits := literals sequences.flatten
  let wordPattern := ((g.tokens.find? (·.name == g.word)).map (·.pattern)).getD .never
  let eof : Terminal := ⟨"", .never, 0, false, false, false, false, false⟩
  let classes : List Terminal := g.tokens.map fun (t : TokenClass) =>
    ⟨t.name, t.pattern, t.rank, t.immediate, t.visible, false, false, g.comments.contains t.name⟩
  let literalTokens : List Terminal := lits.map fun (t : String) =>
    ⟨t, .text t, 0, false, false, true, wordPattern.accepts t, false⟩
  let terminals : Array Terminal := (eof :: classes ++ literalTokens).toArray
  let tn := terminals.size
  let named : Std.HashMap String Nat := Std.HashMap.ofList
    ((g.tokens.mapIdx fun i t => (t.name, i + 1)) ++
      (rules.mapIdx fun i r => (r.1, tn + 1 + i)))
  let literal : Std.HashMap String Nat := Std.HashMap.ofList
    (lits.mapIdx fun i t => (t, g.tokens.length + 1 + i))
  let number : SymbolName → Nat
    | .lit t => literal.getD t 0
    | .ref n => named.getD n 0
    | .repeated i => tn + 1 + rules.length + i
  let productions : Array Production := (sequences.mapIdx fun owner ss =>
    ss.map fun s => (⟨owner,
      (s.steps.map fun t => (⟨number t.symbol, t.level, t.assoc, t.kind⟩ : Step Nat)).toArray,
      s.weight⟩ : Production)).flatten.toArray
  let nn := sequences.length
  let visible : List (Option String) := rules.map fun (r : String × Rule) =>
    if r.1.startsWith "_" || g.unseen.contains r.1 then none else some r.1
  let kinds : Array (Option String) := (none :: visible ++ repeats.map fun _ => none).toArray
  let first := firstSets tn nn productions
  let byOwner : Array (Array Nat) := (List.range productions.size).foldl (fun table i =>
    table.modify (productions.getD i default).owner (·.push i)) (Array.replicate nn #[])
  let productionsOf := byOwner.map fun is => is.map fun i => productions.getD i default
  let starts := (Array.range nn).map fun rule =>
    let found := startsOf tn productionsOf first (nn * nn) [rule]
      ((Array.replicate nn none).set! rule (some ⟨rule, 0, true⟩))
    found.filterMap id
  let leading : Array (Array Nat) := (List.range productions.size).foldl (fun table i =>
    match (productions.getD i default).steps[0]? with
    | some t => table.modify t.symbol (·.push i)
    | none => table) (Array.replicate (tn + nn) #[])
  let canonical := (Array.range productions.size).map fun i =>
    (Array.range ((productions.getD i default).steps.size + 1)).map fun dot =>
      canonicalItem productions byOwner i dot
  let empties := (Array.range productions.size).filter fun i =>
    (productions.getD i default).steps.isEmpty
  let keywords := (Std.HashMap.ofList (lits.filterMap fun t =>
    if wordPattern.accepts t then some (t, literal.getD t 0) else none) : Std.HashMap String Nat)
  let word := named.getD g.word 0
  let wordLike := keywords.fold (fun set _ t => set ||| bit t) (bit word)
  ⟨g.blanks, terminals, word, keywords, wordLike, kinds, productions, first, starts, leading,
    canonical, empties⟩

namespace Automaton

variable (a : Automaton)

/-- The number of a rule as a symbol. -/
def ruleSymbol (rule : Nat) : Nat := a.terminals.size + rule

/-! ## States -/

end Automaton

/-- An item with the terminals that may follow it. -/
structure Item where
  production : Nat
  dot : Nat
  after : Nat
  deriving Inhabited, BEq, Hashable

/-- A state: its items, what may follow each rule that can start here, and the terminals on which
there is something to do. -/
structure State where
  items : Array Item
  follow : Array Nat
  valid : Nat
  deriving Inhabited

namespace Automaton

variable (a : Automaton)

/-- The production of an item. -/
def productionOf (i : Item) : Production := a.productions.getD i.production default

/-- The state with the given items. -/
def close (items : Array Item) : State :=
  let follow := items.foldl (fun follow i =>
    let p := a.productionOf i
    match p.steps[i.dot]? with
    | none => follow
    | some t =>
      if t.symbol < a.terminals.size then follow else
        let after := match p.steps[i.dot + 1]? with
          | some u => a.first.getD u.symbol 0
          | none => i.after
        (a.starts.getD (t.symbol - a.terminals.size) #[]).foldl (fun follow s =>
          follow.modify s.symbol (· ||| s.after ||| (if s.inherits then after else 0))) follow)
    (Array.replicate a.kinds.size 0)
  let valid := items.foldl (fun valid i =>
    valid ||| match (a.productionOf i).steps[i.dot]? with
      | none => i.after
      | some t => a.first.getD t.symbol 0) 0
  let valid := a.empties.foldl (fun valid p =>
    valid ||| follow.getD (a.productions.getD p default).owner 0) valid
  ⟨items, follow, valid⟩

/-- Adds an item to items that are sorted by production and position. -/
def insertItem (i : Item) : List Item → List Item
  | [] => [i]
  | j :: js =>
    if j.production == i.production && j.dot == i.dot then
      { j with after := j.after ||| i.after } :: js
    else if i.production < j.production || (i.production == j.production && i.dot < j.dot) then
      i :: j :: js
    else j :: insertItem i js

/-- The items of the state that follows when the symbol `x` has been read. -/
def advance (s : State) (x : Nat) : Array Item :=
  let step (items : List Item) (p dot after : Nat) : List Item :=
    insertItem ⟨(a.canonical.getD p #[]).getD (dot + 1) p, dot + 1, after⟩ items
  let items := s.items.foldl (fun items i =>
    match (a.productionOf i).steps[i.dot]? with
    | some t => if t.symbol == x then step items i.production i.dot i.after else items
    | none => items) []
  let items := (a.leading.getD x #[]).foldl (fun items p =>
    let after := s.follow.getD (a.productions.getD p default).owner 0
    if after == 0 then items else step items p 0 after) items
  items.toArray

/-! ## Decisions -/

end Automaton

/-- What can be done in a state on a lookahead: finish one of some productions, or read the
lookahead. -/
structure Decision where
  reductions : List Nat
  shift : Bool
  deriving Inhabited

namespace Automaton

variable (a : Automaton)

/-- How tightly an item binds, as its last step says. -/
def level (i : Item) : Int :=
  if i.dot == 0 then 0 else (((a.productionOf i).steps[i.dot - 1]?).map (·.level)).getD 0

/-- How the last step of an item groups. -/
def assoc (i : Item) : Option Assoc :=
  if i.dot == 0 then none else ((a.productionOf i).steps[i.dot - 1]?).bind (·.assoc)

/-- The order in which finished items are tried. -/
def before (i j : Item) : Bool :=
  let p := a.productionOf i
  let q := a.productionOf j
  if i.dot != j.dot then i.dot < j.dot
  else if p.owner != q.owner then p.owner < q.owner
  else if p.weight != q.weight then p.weight < q.weight
  else i.production ≤ j.production

/-- What to do on the terminal `t`.  Of several productions that can be finished those that bind
most tightly remain.  Finishing is then weighed against reading on: the tighter side wins; between
equals, left grouping finishes and right grouping reads on; else both remain. -/
def decide (s : State) (t : Nat) : Decision :=
  let finished := s.items.toList.filter fun i =>
    i.dot == (a.productionOf i).steps.size && i.after.testBit t
  let finished := finished ++ (a.empties.toList.filterMap fun p =>
    let after := s.follow.getD (a.productions.getD p default).owner 0
    if after.testBit t then some ⟨p, 0, after⟩ else none)
  let best := (finished.map a.level).foldl max ((finished.head?.map a.level).getD 0)
  let finished := (finished.filter fun i => a.level i == best).mergeSort a.before
  let reading := s.items.toList.filter fun i =>
    match (a.productionOf i).steps[i.dot]? with
    | some u => (a.first.getD u.symbol 0).testBit t
    | none => false
  let reductions := finished.map (·.production)
  if finished.isEmpty || reading.isEmpty then ⟨reductions, !reading.isEmpty⟩ else
    let levels := (reading.filter fun i => 0 < i.dot).map a.level
    let tighter := levels.any fun l => best < l
    let looser := levels.any fun l => l < best
    if tighter && !looser then ⟨[], true⟩
    else if looser && !tighter then ⟨reductions, false⟩
    else if tighter || looser then ⟨reductions, true⟩
    else if finished.all fun i => a.assoc i == some .left then ⟨reductions, false⟩
    else if finished.all fun i => a.assoc i == some .right then ⟨[], true⟩
    else ⟨reductions, true⟩

/-! ## States by number -/

end Automaton

/-- The states and decisions that have been computed so far. -/
structure Memo where
  states : Array State
  numbers : Std.HashMap (Array Item) Nat
  moves : Std.HashMap (Nat × Nat) (Option Nat)
  decisions : Std.HashMap (Nat × Nat) Decision
  deriving Inhabited

/-- The terminals on which there is something to do in a state. -/
def Memo.valid (m : Memo) (state : Nat) : Nat := (m.states.getD state default).valid

namespace Automaton

variable (a : Automaton)

/-- The memo that knows the initial state, number 0. -/
def memo : Memo :=
  let items : Array Item := #[⟨0, 0, bit 0⟩]
  ⟨#[a.close items], (∅ : Std.HashMap (Array Item) Nat).insert items 0, ∅, ∅⟩

/-- The number of the state that follows a state when the symbol `x` has been read. -/
def move (state x : Nat) : StateM Memo (Option Nat) := fun m =>
  match m.moves[(state, x)]? with
  | some known => (known, m)
  | none =>
    let items := a.advance (m.states.getD state default) x
    if items.isEmpty then (none, { m with moves := m.moves.insert (state, x) none })
    else match m.numbers[items]? with
      | some n => (some n, { m with moves := m.moves.insert (state, x) (some n) })
      | none =>
        let n := m.states.size
        (some n, { m with
          states := m.states.push (a.close items)
          numbers := m.numbers.insert items n
          moves := m.moves.insert (state, x) (some n) })

/-- The decision in a state, by number, on the terminal `t`. -/
def decision (state t : Nat) : StateM Memo Decision := fun m =>
  match m.decisions[(state, t)]? with
  | some known => (known, m)
  | none =>
    let d := a.decide (m.states.getD state default) t
    (d, { m with decisions := m.decisions.insert (state, t) d })

end Automaton

end JavaTree.Grammar
