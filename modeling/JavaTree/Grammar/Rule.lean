/-!
# Grammar rules

A grammar is data: a list of named rules, each an expression over literal tokens, token classes and
other rules, with precedences on parts of it.  `Rule.productions` lists the choice-free right-hand
sides of a rule, as the automaton wants them.

## Main definitions

* `Rule` — rule expressions, with `Rule.seqs`, `Rule.choice`, `Rule.optional`, `Rule.separated1`
  and the like.
* `Step`, `Sequence` — one symbol of a right-hand side, with the precedence it has there; a
  right-hand side.
* `Rule.liftRepeats` — every repetition becomes a symbol of its own.
* `Rule.sequences` — the right-hand sides of a rule.
-/

namespace JavaTree.Grammar

/-- How operators of one precedence group. -/
inductive Assoc
  | left
  | right
  deriving Repr, DecidableEq, Inhabited

/-- The right-hand side of a grammar rule. -/
inductive Rule
  /-- Nothing. -/
  | blank
  /-- A token that is written literally. -/
  | lit (text : String)
  /-- A token class or another rule. -/
  | ref (name : String)
  /-- The auxiliary symbol of a repetition. -/
  | repeated (index : Nat)
  | seq (first second : Rule)
  | alt (left right : Rule)
  /-- Once or more. -/
  | many1 (body : Rule)
  /-- The body at a precedence, which decides between continuing and finishing it. -/
  | prec (level : Int) (assoc : Option Assoc) (body : Rule)
  /-- The body with a weight, which decides between two readings of the same text. -/
  | weight (value : Int) (body : Rule)
  /-- The body as a node of the given kind. -/
  | named (kind : String) (body : Rule)
  deriving Repr, DecidableEq, Inhabited

namespace Rule

/-! ## Combinations -/

/-- All rules of a list, one after the other. -/
def seqs : List Rule → Rule
  | [] => blank
  | [r] => r
  | r :: rs => seq r (seqs rs)

/-- One of the rules of a list. -/
def choice : List Rule → Rule
  | [] => blank
  | [r] => r
  | r :: rs => alt r (choice rs)

/-- The rule or nothing. -/
def optional (r : Rule) : Rule := alt r blank

/-- Any number of times. -/
def many (r : Rule) : Rule := alt (many1 r) blank

/-- Once or more, with a separator between two occurrences. -/
def separated1 (separator : String) (r : Rule) : Rule := seq r (many (seq (lit separator) r))

/-- Once or more, separated by commas. -/
def commas1 (r : Rule) : Rule := separated1 "," r

/-- Any number of times, separated by commas. -/
def commas (r : Rule) : Rule := optional (commas1 r)

instance : Coe String Rule := ⟨ref⟩

/-! ## Repetitions -/

/-- Replaces every repetition by an auxiliary symbol.  `bodies` lists what the auxiliary symbols
repeat; equal bodies share one symbol. -/
def liftRepeats (bodies : Array Rule) : Rule → Rule × Array Rule
  | seq a b =>
    let (a, bodies) := liftRepeats bodies a
    let (b, bodies) := liftRepeats bodies b
    (seq a b, bodies)
  | alt a b =>
    let (a, bodies) := liftRepeats bodies a
    let (b, bodies) := liftRepeats bodies b
    (alt a b, bodies)
  | many1 a =>
    let (a, bodies) := liftRepeats bodies a
    match bodies.findIdx? (· == a) with
    | some i => (repeated i, bodies)
    | none => (repeated bodies.size, bodies.push a)
  | prec n s a =>
    let (a, bodies) := liftRepeats bodies a
    (prec n s a, bodies)
  | weight n a =>
    let (a, bodies) := liftRepeats bodies a
    (weight n a, bodies)
  | named k a =>
    let (a, bodies) := liftRepeats bodies a
    (named k a, bodies)
  | r => (r, bodies)

/-! ## Right-hand sides -/

/-- The choice-free readings of a rule, in order. -/
def alternatives : Rule → List Rule
  | seq a b => a.alternatives.flatMap fun x => b.alternatives.map (seq x)
  | alt a b => a.alternatives ++ b.alternatives
  | prec n s a => a.alternatives.map (prec n s)
  | weight n a => a.alternatives.map (weight n)
  | named k a => a.alternatives.map (named k)
  | r => [r]

end Rule

/-- What a symbol of a right-hand side is called before symbols are numbered. -/
inductive SymbolName
  | lit (text : String)
  | ref (name : String)
  | repeated (index : Nat)
  deriving Repr, DecidableEq, Inhabited

/-- One symbol of a right-hand side.  `level` and `assoc` tell how tightly the text up to and
including the symbol binds; `kind` is the node kind that the place gives to the symbol. -/
structure Step (α : Type) where
  symbol : α
  level : Int
  assoc : Option Assoc
  kind : Option String
  deriving Repr, DecidableEq, Inhabited

/-- A right-hand side with its weight. -/
structure Sequence where
  steps : List (Step SymbolName)
  weight : Int
  deriving Repr, Inhabited

/-- Changes the last element of a list. -/
def modifyLast {α : Type} (f : α → α) : List α → List α
  | [] => []
  | [a] => [f a]
  | a :: as => a :: modifyLast f as

namespace Rule

/-- The steps of a choice-free rule.  A precedence covers the steps of its body; when more follows
in the surrounding rule (`atEnd` is false), the last step of the body goes back to the surrounding
precedence, because what comes after it belongs to that rule. -/
def steps (level : Int) (assoc : Option Assoc) (kind : Option String) (atEnd : Bool) :
    Rule → List (Step SymbolName)
  | lit t => [⟨.lit t, level, assoc, kind⟩]
  | ref n => [⟨.ref n, level, assoc, kind⟩]
  | repeated i => [⟨.repeated i, level, assoc, kind⟩]
  | seq a b => a.steps level assoc kind false ++ b.steps level assoc kind atEnd
  | prec n s a =>
    let inner := a.steps n (s <|> assoc) kind atEnd
    if atEnd then inner
    else
      modifyLast (fun t => { t with level := level, assoc := if s.isSome then assoc else t.assoc })
        inner
  | weight _ a => a.steps level assoc kind atEnd
  | named k a => a.steps level assoc (some k) atEnd
  | _ => []

/-- The weight of a choice-free rule: the value of largest size that occurs in it. -/
def totalWeight : Rule → Int
  | seq a b => let x := a.totalWeight; let y := b.totalWeight; if y.natAbs > x.natAbs then y else x
  | prec _ _ a => a.totalWeight
  | weight n a => let x := a.totalWeight; if x.natAbs > n.natAbs then x else n
  | named _ a => a.totalWeight
  | _ => 0

/-- The right-hand sides of a rule. -/
def sequences (r : Rule) : List Sequence :=
  r.alternatives.map fun a => ⟨a.steps 0 none none true, a.totalWeight⟩

end Rule

end JavaTree.Grammar
