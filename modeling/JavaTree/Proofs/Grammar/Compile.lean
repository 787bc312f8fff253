import Mathlib.Data.List.Nodup
import JavaTree.Proofs.Grammar.Empty
import JavaTree.Proofs.Grammar.Kinds

/-!
# Grammars with an empty source

What compiling does to a grammar whose first rule can be empty: the automaton reads the empty
source.

## Main definitions

* `RuleSet.sequences`, `RuleSet.number` — the right-hand sides of a compiled grammar and the numbers
  of its symbols.
* `RuleSet.EmptyFirst` — a grammar whose first rule is empty or starts with something else, and
  stands at the start of no right-hand side.

## Main results

* `RuleSet.emptiesStart_compile` — of all productions only one of the first rule has no steps.
* `RuleSet.exists_parse_empty` — the empty source is read.
-/

namespace JavaTree.Grammar

/-! ## Tables -/

/-- The element of a mapped range at an index is the value for that index. -/
lemma getD_map_range {α : Type} {n i : Nat} (hi : i < n) (f : Nat → α) (d : α) :
    ((Array.range n).map f).getD i d = f i := by
  rw [Array.getD_eq_getD_getElem?, Array.getElem?_map, Array.getElem?_range, if_pos hi]
  rfl

/-- A property that one number below a bound has holds of this number only. -/
lemma filter_range_eq_singleton {n k : Nat} {P : Nat → Bool} (hk : k < n)
    (h : ∀ i < n, P i = true ↔ i = k) : (List.range n).filter P = [k] := by
  have hP : (List.range n).filter P = (List.range n).filter (· == k) := by
    refine List.filter_congr fun i hi => ?_
    rw [Bool.eq_iff_iff, h i (List.mem_range.1 hi), beq_iff_eq]
  rw [hP, List.filter_beq, List.count_eq_one_of_mem List.nodup_range (List.mem_range.2 hk)]
  rfl

/-- The productions by the symbol that they start with: a table of their numbers. -/
def leadingTable (productions : Array Production) (is : List Nat) (table : Array (Array Nat)) :
    Array (Array Nat) :=
  is.foldl (fun table i =>
    match (productions.getD i default).steps[0]? with
    | some t => table.modify t.symbol (·.push i)
    | none => table) table

/-- Under each symbol stand the numbers of the productions that start with it, in order. -/
lemma getD_leadingTable {productions : Array Production} {x : Nat} (is : List Nat)
    {table : Array (Array Nat)} (hx : x < table.size) :
    ((leadingTable productions is table).getD x #[]).toList = (table.getD x #[]).toList ++
      is.filter fun i => (productions.getD i default).steps[0]?.map (·.symbol) == some x := by
  induction is generalizing table with
  | nil => simp [leadingTable]
  | cons i is ih =>
    rw [leadingTable, List.foldl_cons, ← leadingTable, List.filter_cons]
    cases hi : (productions.getD i default).steps[0]? with
    | none => exact ih hx
    | some t =>
      refine (ih (by simpa using hx)).trans ?_
      rw [getD_modify]
      by_cases ht : t.symbol = x
      · rw [if_pos ⟨ht, hx⟩, if_pos (by simp [ht])]
        simp
      · rw [if_neg fun h => ht h.1, if_neg (by simp [ht])]

/-- No symbol but the end of the source starts with it, where no right-hand side does.

**Proof sketch.** The sets begin without the end of the source, and each round adds to a set only
what a symbol at the start of a right-hand side begins with. -/
lemma testBit_firstSets {terminals nonterminals : Nat} {productions : Array Production}
    (h : ∀ p ∈ productions, ∀ t, p.steps[0]? = some t → t.symbol ≠ 0) {s : Nat} (hs : s ≠ 0) :
    ((firstSets terminals nonterminals productions).getD s 0).testBit 0 = false := by
  let Clear (sets : Array Nat) : Prop := ∀ s, s ≠ 0 → (sets.getD s 0).testBit 0 = false
  refine List.foldlRecOn (motive := Clear) _ _ ?_ (fun sets hsets _ _ => ?_) s hs
  · intro s hs
    by_cases hlt : s < terminals + nonterminals
    · rw [getD_map_range hlt]
      split
      · simp [bit, hs]
      · rfl
    · simp [Array.getD_eq_getD_getElem?, hlt]
  · rw [← Array.foldl_toList]
    refine List.foldlRecOn (motive := Clear) _ _ hsets fun sets hsets p hp => ?_
    cases ht : p.steps[0]? with
    | none => exact hsets
    | some t =>
      intro s hs
      have ht0 := h p (Array.mem_toList_iff.1 hp) t ht
      simp only [getD_modify]
      split
      · simp only [Nat.testBit_or, hsets s hs, hsets _ ht0, Bool.or_false]
      · exact hsets s hs

/-- A rule can start where it starts, and is followed there by what follows it. -/
def StartsItself (rule : Nat) (found : Array (Option Start)) : Prop :=
  ∃ s, found[rule]? = some (some s) ∧ s.symbol = rule ∧ s.inherits = true

/-- A rule goes on starting where it starts when a start is set that inherits what was inherited. -/
lemma StartsItself.set {rule m after : Nat} {found : Array (Option Start)} {inherits : Bool}
    (h : StartsItself rule found)
    (hkeep : ∀ s, found.getD m none = some s → s.inherits = true → inherits = true) :
    StartsItself rule (found.set! m (some ⟨m, after, inherits⟩)) := by
  obtain ⟨s, hs, hsymbol, hinherits⟩ := h
  by_cases hm : m = rule
  · subst hm
    have hlt : m < found.size := (Array.getElem?_eq_some_iff.1 hs).1
    have hold : found.getD m none = some s := by simp [Array.getD_eq_getD_getElem?, hs]
    exact ⟨⟨m, after, inherits⟩, by simp [hlt], rfl, hkeep s hold hinherits⟩
  · exact ⟨s, by simpa [hm] using hs, hsymbol, hinherits⟩

/-- A rule that starts where it starts still does when all starts have been found.

**Proof sketch.** Induction on the fuel, with a fold over the productions of the rule in each round;
a start is replaced only by one that inherits as well. -/
lemma startsItself_startsOf {terminals rule : Nat} {productionsOf : Array (Array Production)}
    {first : Array Nat} {fuel : Nat} {todo : List Nat} {found : Array (Option Start)}
    (h : StartsItself rule found) :
    StartsItself rule (startsOf terminals productionsOf first fuel todo found) := by
  induction fuel generalizing todo found with
  | zero => exact h
  | succ fuel ih =>
    cases todo with
    | nil => exact h
    | cons next todo =>
      rw [startsOf, ← Array.foldl_toList]
      split
      rename_i todo' found' heq
      obtain rfl : _ = found' := congrArg Prod.snd heq
      refine ih ?_
      refine List.foldlRecOn (motive := fun x : List Nat × Array (Option Start) =>
        StartsItself rule x.2) _ _ h fun x hx p _ => ?_
      cases ht : p.steps[0]? with
      | none => exact hx
      | some t =>
        simp only
        by_cases hterminal : t.symbol < terminals
        · simpa only [hterminal, if_true] using hx
        · simp only [hterminal, if_false]
          cases hold : x.2.getD (t.symbol - terminals) none with
          | none => exact hx.set (by simp [hold])
          | some old =>
            -- what follows is the same whether or not a symbol comes next
            simp only
            split
            all_goals
              split
              · exact hx
              · refine hx.set ?_
                simp +contextual [hold]

/-! ## Compiled grammars -/

namespace RuleSet

variable (g : RuleSet)

/-- The name of the first rule. -/
def startName : String := (g.rules.head?.map (·.1)).getD ""

/-- The right-hand sides of a grammar: of the start, of its rules, and of its repetitions. -/
def sequences : List (List Sequence) :=
  (Rule.ref g.startName).sequences :: ((flattenRepeats g.rules).1.map fun r => r.2.sequences) ++
    (flattenRepeats g.rules).2.toList.mapIdx fun i body =>
      (Rule.alt (.seq (.repeated i) body) body).sequences

/-- The number of terminals. -/
def terminalCount : Nat := g.compile.terminals.size

/-- The symbols that have names, with their numbers. -/
def namedSymbols : List (String × Nat) :=
  (g.tokens.mapIdx fun i t => (t.name, i + 1)) ++
    (flattenRepeats g.rules).1.mapIdx fun i r => (r.1, g.terminalCount + 1 + i)

/-- The literal tokens with their numbers. -/
def literalSymbols : List (String × Nat) :=
  (literals g.sequences.flatten).mapIdx fun i t => (t, g.tokens.length + 1 + i)

/-- The number of a symbol. -/
def number : SymbolName → Nat
  | .lit t => (Std.HashMap.ofList g.literalSymbols : Std.HashMap String Nat).getD t 0
  | .ref n => (Std.HashMap.ofList g.namedSymbols : Std.HashMap String Nat).getD n 0
  | .repeated i => g.terminalCount + 1 + (flattenRepeats g.rules).1.length + i

/-- A right-hand side with its symbols numbered. -/
def production (owner : Nat) (s : Sequence) : Production :=
  ⟨owner, (s.steps.map fun t => (⟨g.number t.symbol, t.level, t.assoc, t.kind⟩ : Step Nat)).toArray,
    s.weight⟩

/-- The terminals are the tokens, the literals and the end of the text. -/
lemma terminalCount_eq :
    g.terminalCount = g.tokens.length + (literals g.sequences.flatten).length + 1 := by
  change (List.toArray (_ :: g.tokens.map _ ++ (literals g.sequences.flatten).map _)).size = _
  simp only [List.size_toArray, List.length_append, List.length_cons, List.length_map]
  omega

/-- The productions of the automaton are those of the rules in their order. -/
lemma productions_compile : g.compile.productions =
    (g.sequences.mapIdx fun owner ss => ss.map (g.production owner)).flatten.toArray :=
  rfl

/-- The leading symbols of the automaton are computed from its productions. -/
lemma leading_compile : g.compile.leading = leadingTable g.compile.productions
    (List.range g.compile.productions.size)
    (Array.replicate (g.terminalCount + g.sequences.length) #[]) :=
  rfl

/-- The names of the symbols. -/
def symbolNames : List String := g.tokens.map (·.name) ++ g.rules.map (·.1)

/-- Whether a right-hand side starts with a literal token, a repetition, or a name of the grammar
other than that of the first rule. -/
def startsLater (s : Sequence) : Bool :=
  match s.steps with
  | ⟨.ref n, _, _, _⟩ :: _ => g.symbolNames.contains n && n != g.startName
  | _ :: _ => true
  | [] => false

/-- A grammar whose first rule can be empty, and no other one, and whose first rule stands at the
start of no right-hand side.  No other symbol has the name of the first rule. -/
structure EmptyFirst (g : RuleSet) : Prop where
  once : g.startName ∉ g.tokens.map (·.name) ++ (g.rules.drop 1).map (·.1)
  first : (g.sequences[1]?.map fun ss => ss.map fun s => (g.startsLater s, s.steps.isEmpty)) =
    some [(true, false), (false, true)]
  rest : (g.sequences.drop 2).flatten.all g.startsLater = true

variable {g}

/-! ### Numbers of symbols -/

/-- A map after a map with indices that loses the indices again. -/
lemma map_mapIdx_of_forall {α β γ : Type} {as : List α} {f : Nat → α → β} {k : β → γ} {l : α → γ}
    (h : ∀ i a, k (f i a) = l a) : (as.mapIdx f).map k = as.map l := by
  apply List.ext_getElem
  · simp
  · intro i hi hi'
    simp [h]

/-- The names of the symbols for literals are the literals. -/
lemma map_fst_literalSymbols : g.literalSymbols.map (·.1) = literals g.sequences.flatten := by
  apply List.ext_getElem
  · simp [literalSymbols]
  · intro i hi hi'
    simp [literalSymbols]

/-- The names of the symbols for names are the names. -/
lemma map_fst_namedSymbols : g.namedSymbols.map (·.1) = g.symbolNames := by
  rw [namedSymbols, symbolNames, List.map_append, ← (mem_kinds_of_flattenRepeats (g := g)).1]
  exact congrArg₂ (· ++ ·) (map_mapIdx_of_forall fun _ _ => rfl)
    (map_mapIdx_of_forall fun _ _ => rfl)

/-- The grammar starts with its first rule. -/
lemma startName_eq : g.startName = ((flattenRepeats g.rules).1.head?.map (·.1)).getD "" := by
  rw [startName, ← List.head?_map, ← List.head?_map, (mem_kinds_of_flattenRepeats (g := g)).1]

/-- A table has for a key one of the values that are listed for it. -/
lemma mem_getD_ofList {ps : List (String × Nat)} {n : String} (h : n ∈ ps.map (·.1)) (d : Nat) :
    (n, (Std.HashMap.ofList ps : Std.HashMap String Nat).getD n d) ∈ ps := by
  have hmem : n ∈ (Std.HashMap.ofList ps : Std.HashMap String Nat) := by
    rwa [Std.HashMap.mem_ofList, List.contains_iff_mem]
  obtain ⟨v, hv⟩ : ∃ v, (Std.HashMap.ofList ps : Std.HashMap String Nat)[n]? = some v :=
    ⟨_, Std.HashMap.getElem?_eq_some_getElem hmem⟩
  rw [Std.HashMap.getD_eq_getD_getElem?, hv, Option.getD_some]
  rw [Std.HashMap.ofList_eq_insertMany_empty, Std.HashMap.getElem?_insertMany_list,
    Std.HashMap.getElem?_empty, Option.or_none, List.findSomeRev?_eq_findSome?_reverse] at hv
  obtain ⟨⟨m, w⟩, hlisted, hw⟩ := List.exists_of_findSome?_eq_some hv
  simp only [Option.ite_none_right_eq_some, beq_iff_eq, Option.some.injEq] at hw
  obtain ⟨rfl, rfl⟩ := hw
  exact List.mem_reverse.1 hlisted

/-- A symbol with a name has one of the numbers that are listed for it. -/
lemma mem_namedSymbols_number {n : String} (h : n ∈ g.symbolNames) :
    (n, g.number (.ref n)) ∈ g.namedSymbols :=
  mem_getD_ofList (map_fst_namedSymbols ▸ h) 0

/-- A literal token has a number that terminals have. -/
lemma number_lit {s : Sequence} {t : Step SymbolName} {text : String} (hs : s ∈ g.sequences.flatten)
    (ht : t ∈ s.steps) (hsymbol : t.symbol = .lit text) :
    0 < g.number (.lit text) ∧ g.number (.lit text) < g.terminalCount := by
  have hcount := g.terminalCount_eq
  have hmem : text ∈ literals g.sequences.flatten := by
    rw [literals, List.mem_eraseDups]
    exact List.mem_flatMap.2 ⟨s, hs, List.mem_filterMap.2 ⟨t, ht, by rw [hsymbol]⟩⟩
  have hlisted : (text, g.number (.lit text)) ∈ g.literalSymbols :=
    mem_getD_ofList (map_fst_literalSymbols ▸ hmem) 0
  obtain ⟨i, hi, heq⟩ := List.mem_mapIdx.1 hlisted
  have hnumber : g.tokens.length + 1 + i = g.number (.lit text) := congrArg Prod.snd heq
  omega

namespace EmptyFirst

/-- A grammar whose first rule can be empty has a rule. -/
lemma rules_ne_nil (h : g.EmptyFirst) : g.rules ≠ [] := by
  intro hrules
  have hfirst := h.first
  simp [sequences, hrules, flattenRepeats] at hfirst

/-- The first rule has a number of its own, and no symbol has that of the end of the source.

**Proof sketch.** Tokens are numbered before the number of the first rule, and rules from it on; the
name of the first rule occurs only once. -/
lemma of_mem_namedSymbols (h : g.EmptyFirst) {n : String} {v : Nat}
    (hmem : (n, v) ∈ g.namedSymbols) :
    0 < v ∧ (v = g.terminalCount + 1 ↔ n = g.startName) := by
  have hcount := g.terminalCount_eq
  have honce := h.once
  have hnames := (mem_kinds_of_flattenRepeats (g := g)).1
  rw [List.map_drop, ← hnames, ← List.map_drop] at honce
  rcases List.mem_append.1 hmem with hmem | hmem
  · obtain ⟨i, hi, heq⟩ := List.mem_mapIdx.1 hmem
    obtain ⟨rfl, rfl⟩ := Prod.mk.inj heq
    refine ⟨by omega, by omega, fun hn => absurd (List.mem_append_left _ ?_) honce⟩
    exact hn ▸ List.mem_map_of_mem (List.getElem_mem hi)
  · obtain ⟨i, hi, heq⟩ := List.mem_mapIdx.1 hmem
    obtain ⟨rfl, rfl⟩ := Prod.mk.inj heq
    refine ⟨by omega, fun hv => ?_, fun hn => ?_⟩
    · obtain rfl : i = 0 := by omega
      rw [startName_eq, List.head?_eq_getElem?, List.getElem?_eq_getElem hi]
      rfl
    · by_contra hv
      obtain ⟨j, rfl⟩ : ∃ j, i = j + 1 := ⟨i - 1, by omega⟩
      have hmem : (flattenRepeats g.rules).1[j + 1] ∈ (flattenRepeats g.rules).1.drop 1 :=
        List.mem_drop_iff_getElem.2 ⟨j, by omega, by simp [Nat.add_comm]⟩
      exact honce (List.mem_append_right _ (hn ▸ List.mem_map_of_mem hmem))

/-- The first rule has the first number after those of the terminals and of the start. -/
lemma number_start (h : g.EmptyFirst) : g.number (.ref g.startName) = g.terminalCount + 1 := by
  refine (h.of_mem_namedSymbols (mem_namedSymbols_number (List.mem_append_right _ ?_))).2.2 rfl
  obtain ⟨r, rs, hrules⟩ := List.exists_cons_of_ne_nil h.rules_ne_nil
  simp [startName, hrules]

/-- What is not the first rule has not its number, and is not the end of the source.

**Proof sketch.** By the symbol: a name has been required to be another one, and literals and
repetitions are numbered elsewhere. -/
lemma number_of_startsLater (h : g.EmptyFirst) {s : Sequence} {t : Step SymbolName}
    (hs : g.startsLater s = true) (hmem : s ∈ g.sequences.flatten) (ht : s.steps.head? = some t) :
    g.number t.symbol ≠ 0 ∧ g.number t.symbol ≠ g.terminalCount + 1 := by
  obtain ⟨symbol, level, assoc, kind⟩ := t
  obtain ⟨ts, hsteps⟩ := List.head?_eq_some_iff.1 ht
  cases symbol with
  | ref n =>
    rw [startsLater, hsteps] at hs
    simp only [Bool.and_eq_true, List.contains_iff_mem, bne_iff_ne] at hs
    obtain ⟨hn, hne⟩ := hs
    obtain ⟨hpos, hstart⟩ := h.of_mem_namedSymbols (mem_namedSymbols_number hn)
    exact ⟨Nat.ne_of_gt hpos, fun heq => hne (hstart.1 heq)⟩
  | lit text =>
    have hnumber := number_lit hmem (List.mem_of_head? ht) rfl
    simp only
    omega
  | repeated i =>
    have hlength : (flattenRepeats g.rules).1.length = g.rules.length := by
      have hnames := congrArg List.length (mem_kinds_of_flattenRepeats (g := g)).1
      simpa using hnames
    have hpos := List.length_pos_iff.2 h.rules_ne_nil
    simp only [number]
    omega

/-! ### Productions -/

/-- The right-hand sides: that of the start, two of the first rule, and those of the others.

**Proof sketch.** Read off the shape of the list that `EmptyFirst` asks for. -/
lemma exists_sequences (h : g.EmptyFirst) : ∃ s e rest,
    g.sequences = (Rule.ref g.startName).sequences :: [s, e] :: rest ∧ g.startsLater s = true ∧
      e.steps = [] ∧ ∀ s ∈ rest.flatten, g.startsLater s = true := by
  obtain ⟨more, hmore⟩ : ∃ more, g.sequences = (Rule.ref g.startName).sequences :: more := ⟨_, rfl⟩
  have hfirst := h.first
  have hrest := h.rest
  rw [hmore] at hfirst hrest
  cases more with
  | nil => simp at hfirst
  | cons ss rest =>
    simp only [List.getElem?_cons_succ, List.getElem?_cons_zero, Option.map_some,
      Option.some.injEq] at hfirst
    obtain ⟨s, es, rfl, hs, hes⟩ := List.map_eq_cons_iff.1 hfirst
    obtain ⟨e, es, rfl, he, hnil⟩ := List.map_eq_cons_iff.1 hes
    obtain rfl := List.map_eq_nil_iff.1 hnil
    refine ⟨s, e, rest, hmore, congrArg Prod.fst hs, ?_, List.all_eq_true.1 hrest⟩
    exact List.isEmpty_iff.1 (congrArg Prod.snd he)

/-- A grammar whose first rule can be empty has a rule after the start. -/
lemma length_sequences (h : g.EmptyFirst) : 1 < g.sequences.length := by
  obtain ⟨s, e, rest, hsequences, -⟩ := h.exists_sequences
  simp [hsequences]

/-- A right-hand side that starts with something else gives a production that does. -/
lemma exists_step_production (h : g.EmptyFirst) {s : Sequence} (hs : g.startsLater s = true)
    (hmem : s ∈ g.sequences.flatten) (owner : Nat) :
    ∃ t, (g.production owner s).steps[0]? = some t ∧
      t.symbol ≠ 0 ∧ t.symbol ≠ g.terminalCount + 1 := by
  cases hsteps : s.steps with
  | nil =>
    rw [startsLater, hsteps] at hs
    cases hs
  | cons t ts =>
    have hnumber := h.number_of_startsLater hs hmem (t := t) (by rw [hsteps]; rfl)
    exact ⟨_, by simp [production, hsteps]; rfl, hnumber⟩

/-- The productions: that of the start, two of the first rule, and those of the others.

**Proof sketch.** The productions are the right-hand sides with their symbols numbered, one list
after the other. -/
lemma exists_productions (h : g.EmptyFirst) : ∃ p e qs,
    g.compile.productions.toList =
      ⟨0, #[⟨g.terminalCount + 1, 0, none, none⟩], 0⟩ :: p :: e :: qs ∧
      e.owner = 1 ∧ e.steps = #[] ∧ ∀ q ∈ p :: qs, q.owner ≠ 0 ∧ ∃ t, q.steps[0]? = some t ∧
        t.symbol ≠ 0 ∧ t.symbol ≠ g.terminalCount + 1 := by
  obtain ⟨s, e, rest, hsequences, hs, he, hrest⟩ := h.exists_sequences
  have hstart : (Rule.ref g.startName).sequences.map (g.production 0) =
      [⟨0, #[⟨g.terminalCount + 1, 0, none, none⟩], 0⟩] := by
    rw [← h.number_start]
    rfl
  refine ⟨g.production 1 s, g.production 1 e,
    (rest.mapIdx fun i ss => ss.map (g.production (i + 1 + 1))).flatten, ?_, rfl, ?_, ?_⟩
  · rw [productions_compile, hsequences]
    simp [List.mapIdx_cons, hstart]
  · simp [production, he]
  · refine List.forall_mem_cons.2
      ⟨⟨Nat.one_ne_zero, h.exists_step_production hs ?_ 1⟩, fun q hq => ?_⟩
    · simp [hsequences]
    · obtain ⟨qs, hqs, hq⟩ := List.mem_flatten.1 hq
      obtain ⟨i, hi, rfl⟩ := List.mem_mapIdx.1 hqs
      obtain ⟨s, hs, rfl⟩ := List.mem_map.1 hq
      have hmem : s ∈ rest.flatten := List.mem_flatten.2 ⟨_, List.getElem_mem hi, hs⟩
      refine ⟨Nat.succ_ne_zero _, h.exists_step_production (hrest s hmem) ?_ _⟩
      simp [hsequences, hmem]

/-- The production of the start. -/
lemma getD_productions_zero (h : g.EmptyFirst) : g.compile.productions.getD 0 default =
    ⟨0, #[⟨g.terminalCount + 1, 0, none, none⟩], 0⟩ := by
  obtain ⟨p, e, qs, hproductions, -⟩ := h.exists_productions
  simp [Array.getD_eq_getD_getElem?, ← Array.getElem?_toList, hproductions]

/-- The production without steps is one of the first rule. -/
lemma getD_productions_two (h : g.EmptyFirst) : 2 < g.compile.productions.size ∧
    (g.compile.productions.getD 2 default).owner = 1 ∧
    (g.compile.productions.getD 2 default).steps = #[] := by
  obtain ⟨p, e, qs, hproductions, howner, hsteps, -⟩ := h.exists_productions
  refine ⟨?_, ?_, ?_⟩
  · simp [← Array.length_toList, hproductions]
  · simp [Array.getD_eq_getD_getElem?, ← Array.getElem?_toList, hproductions, howner]
  · simp [Array.getD_eq_getD_getElem?, ← Array.getElem?_toList, hproductions, hsteps]

/-- The other productions have steps, and do not start with the first rule. -/
lemma exists_step (h : g.EmptyFirst) {i : Nat} (hi : i < g.compile.productions.size) (hzero : i ≠ 0)
    (htwo : i ≠ 2) : (g.compile.productions.getD i default).owner ≠ 0 ∧
      ∃ t, (g.compile.productions.getD i default).steps[0]? = some t ∧
        t.symbol ≠ 0 ∧ t.symbol ≠ g.terminalCount + 1 := by
  obtain ⟨p, e, qs, hproductions, -, -, hothers⟩ := h.exists_productions
  refine hothers _ ?_
  rw [← Array.length_toList, hproductions] at hi
  match i, hzero, htwo, hi with
  | 1, _, _, _ => simp [Array.getD_eq_getD_getElem?, ← Array.getElem?_toList, hproductions]
  | i + 3, _, _, hi =>
    have hlt : i < qs.length := by simpa using hi
    simp [Array.getD_eq_getD_getElem?, ← Array.getElem?_toList, hproductions, hlt]

/-- **A production** is that of the start, or the empty one of the first rule, or it starts with
neither the first rule nor the end of the source. -/
lemma cases_production (h : g.EmptyFirst) {i : Nat} (hi : i < g.compile.productions.size) :
    (i = 0 ∧ g.compile.productions.getD i default =
      ⟨0, #[⟨g.terminalCount + 1, 0, none, none⟩], 0⟩) ∨
    (i = 2 ∧ (g.compile.productions.getD i default).owner = 1 ∧
      (g.compile.productions.getD i default).steps = #[]) ∨
    (i ≠ 0 ∧ i ≠ 2 ∧ (g.compile.productions.getD i default).owner ≠ 0 ∧
      ∃ t, (g.compile.productions.getD i default).steps[0]? = some t ∧
        t.symbol ≠ 0 ∧ t.symbol ≠ g.terminalCount + 1) := by
  by_cases hzero : i = 0
  · subst hzero
    exact .inl ⟨rfl, h.getD_productions_zero⟩
  by_cases htwo : i = 2
  · subst htwo
    exact .inr (.inl ⟨rfl, h.getD_productions_two.2⟩)
  · exact .inr (.inr ⟨hzero, htwo, h.exists_step hi hzero htwo⟩)

/-- What a production starts with is not the end of the source.

**Proof sketch.** By the three cases of `cases_production`. -/
lemma symbol_ne_zero (h : g.EmptyFirst) : ∀ p ∈ g.compile.productions, ∀ t, p.steps[0]? = some t →
    t.symbol ≠ 0 := by
  intro p hp t ht
  obtain ⟨i, hi, rfl⟩ := Array.mem_iff_getElem.1 hp
  have hget : g.compile.productions[i] = g.compile.productions.getD i default := by
    simp [Array.getD_eq_getD_getElem?, hi]
  rw [hget] at ht
  rcases h.cases_production hi with ⟨-, hstart⟩ | ⟨-, -, hsteps⟩ | ⟨-, -, -, u, hu, hne, -⟩
  · rw [hstart] at ht
    obtain rfl := Option.some.inj ht
    exact Nat.succ_ne_zero _
  · rw [hsteps] at ht
    cases ht
  · obtain rfl := Option.some.inj (hu.symm.trans ht)
    exact hne

/-! ### The automaton -/

/-- The only empty production is the second one of the first rule.

**Proof sketch.** By the three cases of `cases_production`, of which only the second one has no
steps. -/
lemma empties_eq (h : g.EmptyFirst) : g.compile.empties = #[2] := by
  change (Array.range g.compile.productions.size).filter
    (fun i => (g.compile.productions.getD i default).steps.isEmpty) = #[2]
  rw [← Array.toList_inj, Array.toList_filter, Array.toList_range]
  refine filter_range_eq_singleton h.getD_productions_two.1 fun i hi => ?_
  rcases h.cases_production hi with ⟨rfl, hstart⟩ | ⟨rfl, -, hsteps⟩ | ⟨-, htwo, -, t, ht, -⟩
  · simp [hstart]
  · simp only [hsteps, iff_true]
    rfl
  · simp only [htwo, iff_false, Array.isEmpty_iff]
    intro hnil
    rw [hnil] at ht
    cases ht

/-- The first rule is among those that start where it starts, and is followed by what follows it. -/
lemma exists_mem_starts (h : g.EmptyFirst) :
    ∃ s ∈ g.compile.starts.getD 1 #[], s.symbol = 1 ∧ s.inherits = true := by
  have hitself : StartsItself 1
      ((Array.replicate g.sequences.length none).set! 1 (some ⟨1, 0, true⟩)) :=
    ⟨⟨1, 0, true⟩, by simp [h.length_sequences], rfl, rfl⟩
  change ∃ s ∈ ((Array.range g.sequences.length).map fun rule => _).getD 1 #[], _
  rw [getD_map_range h.length_sequences]
  obtain ⟨s, hs, hsymbol, hinherits⟩ := startsItself_startsOf hitself
  exact ⟨s, Array.mem_filterMap.2 ⟨some s, Array.mem_of_getElem? hs, rfl⟩, hsymbol, hinherits⟩

/-- Only the production of the start begins with the first rule.

**Proof sketch.** By the three cases of `cases_production`, of which only the first one begins with
the first rule. -/
lemma leading_eq (h : g.EmptyFirst) : g.compile.leading.getD (g.terminalCount + 1) #[] = #[0] := by
  have hsize : g.terminalCount + 1 <
      (Array.replicate (g.terminalCount + g.sequences.length) (#[] : Array Nat)).size := by
    simpa using h.length_sequences
  rw [leading_compile, ← Array.toList_inj, getD_leadingTable _ hsize]
  have htable : (Array.replicate (g.terminalCount + g.sequences.length) (#[] : Array Nat)).getD
      (g.terminalCount + 1) #[] = #[] := by
    rw [Array.getD_eq_getD_getElem?, Array.getElem?_replicate]
    split <;> rfl
  rw [htable]
  refine filter_range_eq_singleton (Nat.zero_lt_of_lt h.getD_productions_two.1) fun i hi => ?_
  rcases h.cases_production hi with ⟨rfl, hstart⟩ | ⟨rfl, -, hsteps⟩ | ⟨hzero, -, -, t, ht, -, hne⟩
  · rw [hstart]
    simp
  · rw [hsteps]
    simp
  · rw [ht]
    simp [hzero, hne]

/-- The production of the start stands for itself: no other one has the same items.

**Proof sketch.** A production with the same items would have the owner and the steps of the start.
The cases of `cases_production` leave only the start itself. -/
lemma canonical_eq (h : g.EmptyFirst) : (g.compile.canonical.getD 0 #[]).getD 1 0 = 0 := by
  have hpos : 0 < g.compile.productions.size := Nat.zero_lt_of_lt h.getD_productions_two.1
  obtain ⟨byOwner, hcanonical⟩ : ∃ byOwner, g.compile.canonical =
      (Array.range g.compile.productions.size).map fun i =>
        (Array.range ((g.compile.productions.getD i default).steps.size + 1)).map fun dot =>
          canonicalItem g.compile.productions byOwner i dot := ⟨_, rfl⟩
  rw [hcanonical, getD_map_range hpos, h.getD_productions_zero, getD_map_range (by simp)]
  unfold canonicalItem
  simp only [h.getD_productions_zero]
  cases hfind : Array.find? _ (byOwner.getD 0 #[]) with
  | none => rfl
  | some j =>
    have hsame := Array.find?_some hfind
    rw [if_neg (by decide), sameItem, Bool.and_eq_true, Bool.and_eq_true, Bool.and_eq_true] at hsame
    have howner := beq_iff_eq.1 hsame.1.1.1
    have hsteps := beq_iff_eq.1 hsame.1.1.2
    by_contra hj
    by_cases hlt : j < g.compile.productions.size
    · rcases h.cases_production hlt with ⟨hzero, -⟩ | ⟨-, hone, -⟩ | ⟨-, -, hne, -⟩
      · exact hj hzero
      · rw [hone] at howner
        cases howner
      · exact hne howner.symm
    · rw [Array.getD_eq_getD_getElem?, Array.getElem?_eq_none (Nat.le_of_not_lt hlt)] at hsteps
      cases hsteps

end EmptyFirst

/-- Of all productions of a grammar whose first rule alone can be empty, only one of this rule has
no steps. -/
theorem emptiesStart_compile (h : g.EmptyFirst) : g.compile.EmptiesStart 2 where
  not_comment := rfl
  start := ⟨_, by rw [h.getD_productions_zero], rfl⟩
  empties := h.empties_eq
  owner := h.getD_productions_two.2.1
  steps := h.getD_productions_two.2.2
  first := testBit_firstSets h.symbol_ne_zero (Nat.succ_ne_zero _)
  starts := h.exists_mem_starts
  leading := h.leading_eq
  canonical := h.canonical_eq
  size := by
    have hlength := h.length_sequences
    change 1 < (List.toArray (none :: (flattenRepeats g.rules).1.map _ ++
      ((flattenRepeats g.rules).2.toList.mapIdx _).map _)).size
    simpa [sequences] using hlength

/-- **The empty source is read** where the first rule alone can be empty. -/
theorem exists_parse_empty (h : g.EmptyFirst) : ∃ piece, g.compile.parse #[] = .ok piece :=
  ⟨_, (emptiesStart_compile h).parse_empty⟩

end RuleSet

end JavaTree.Grammar
