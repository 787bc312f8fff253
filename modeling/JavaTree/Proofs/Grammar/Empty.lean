import Mathlib.Data.List.Basic
import JavaTree.Grammar.Parse

/-!
# The empty source

Where the first rule of a grammar can be empty, and no other rule can, the empty source is read as
this rule without parts.

## Main definitions

* `Automaton.EmptiesStart` — of all productions only one of the first rule has no steps.

## Main results

* `Automaton.scan_empty` — the empty source ends where it begins.
* `Automaton.parse_empty` — the empty source is read.
-/

namespace JavaTree.Grammar

/-! ## Tokens -/

/-- Nothing but the empty text can be matched in the empty source. -/
lemma Pattern.longest_empty (p : Pattern) (i : Nat) :
    p.longest #[] i = none ∨ p.longest #[] i = some i := by
  rw [Pattern.longest, Pattern.longestFrom]
  simp only [Array.size_empty, Nat.not_lt_zero, dite_false]
  split
  · exact .inr rfl
  · exact .inl rfl

namespace Automaton

variable (a : Automaton)

/-- No terminal matches in the empty source. -/
lemma matchAt_empty (valid : Nat) (immediate : Bool) (i : Nat) :
    a.matchAt #[] valid immediate i = none := by
  refine List.foldlRecOn (motive := fun best => best = none) _ _ rfl fun best hbest t _ => ?_
  simp only [hbest]
  split
  · rcases (a.terminals.getD t default).pattern.longest_empty i with h | h
    · rw [h]
    · rw [h]
      simp only [beq_self_eq_true, if_true]
  · rfl

/-- **The empty source ends where it begins.** -/
lemma scan_empty (valid : Nat) : a.scan #[] valid 0 = some ⟨0, 0, 0⟩ := by
  have hblanks : skipBlanks a.blanks #[] 0 = 0 := by
    rw [skipBlanks]
    rfl
  rw [scan, matchAt_empty, hblanks]
  rfl

end Automaton

/-! ## States -/

section

variable {follow : Array Nat} {ss : List Start} {s : Start}

/-- What follows a rule grows when a rule that starts with it is added. -/
def addStart (after : Nat) (follow : Array Nat) (s : Start) : Array Nat :=
  follow.modify s.symbol (· ||| s.after ||| (if s.inherits then after else 0))

/-- An entry of a modified array by number: the modified one at the place, the old one elsewhere. -/
lemma getD_modify {α : Type} (as : Array α) (i j : Nat) (f : α → α) (d : α) :
    (as.modify i f).getD j d = if i = j ∧ j < as.size then f (as.getD j d) else as.getD j d := by
  rw [Array.getD_eq_getD_getElem?, Array.getD_eq_getD_getElem?, Array.getElem?_modify]
  by_cases hj : j < as.size
  · rw [Array.getElem?_eq_getElem hj]
    by_cases hij : i = j
    · rw [if_pos hij, if_pos ⟨hij, hj⟩]
      rfl
    · rw [if_neg hij, if_neg fun h => hij h.1]
  · rw [Array.getElem?_eq_none (Nat.le_of_not_lt hj), Option.map_none, ite_self,
      if_neg fun h => hj h.2]

/-- What follows a rule goes on following it when a start is added. -/
lemma testBit_addStart {after n t : Nat} (h : (follow.getD n 0).testBit t = true) (s : Start) :
    ((addStart after follow s).getD n 0).testBit t = true := by
  rw [addStart, getD_modify]
  split
  · rw [Nat.testBit_or, Nat.testBit_or, h]
    rfl
  · exact h

/-- A rule that starts where another one does is followed by what follows the other one. -/
lemma testBit_foldl_addStart {after n t : Nat} (hs : s ∈ ss) (hsymbol : s.symbol = n)
    (hinherits : s.inherits = true) (hn : n < follow.size) (ht : after.testBit t = true) :
    ((ss.foldl (addStart after) follow).getD n 0).testBit t = true := by
  have hkeep : ∀ (ss : List Start) (follow : Array Nat), (follow.getD n 0).testBit t = true →
      ((ss.foldl (addStart after) follow).getD n 0).testBit t = true := fun ss follow h =>
    List.foldlRecOn (motive := fun follow : Array Nat => (follow.getD n 0).testBit t = true) ss _ h
      fun _ h s _ => testBit_addStart h s
  induction ss generalizing follow with
  | nil => cases hs
  | cons s' ss ih =>
    rw [List.foldl_cons]
    rcases List.mem_cons.1 hs with rfl | hs
    · refine hkeep ss _ ?_
      rw [addStart, getD_modify, if_pos ⟨hsymbol, hn⟩, Nat.testBit_or, hinherits, if_pos rfl, ht,
        Bool.or_true]
    · exact ih hs (by rwa [addStart, Array.size_modify])

end

deriving instance ReflBEq, LawfulBEq for Item

namespace Automaton

/-- Of all productions only one of the first rule has no steps, and the first rule stands nowhere
but at the start. -/
structure EmptiesStart (a : Automaton) (p : Nat) : Prop where
  not_comment : (a.terminals.getD 0 default).comment = false
  start : ∃ t, (a.productions.getD 0 default).steps = #[t] ∧ t.symbol = a.ruleSymbol 1
  empties : a.empties = #[p]
  owner : (a.productions.getD p default).owner = 1
  steps : (a.productions.getD p default).steps = #[]
  first : (a.first.getD (a.ruleSymbol 1) 0).testBit 0 = false
  starts : ∃ s ∈ a.starts.getD 1 #[], s.symbol = 1 ∧ s.inherits = true
  leading : a.leading.getD (a.ruleSymbol 1) #[] = #[0]
  canonical : (a.canonical.getD 0 #[]).getD 1 0 = 0
  size : 1 < a.kinds.size

section

variable (a : Automaton)

/-- The piece for the first rule without parts. -/
def emptyPiece (p : Nat) : Piece :=
  .branch (a.ruleSymbol 1) (a.kinds.getD 1 none) [] 0 0 (a.productions.getD p default).weight

/-- The stack on which the first rule without parts lies. -/
def emptyStack (p state : Nat) : Stack where
  nodes := #[⟨0, 0, 0, #[]⟩,
    ⟨state, 0, 0 + (a.productions.getD p default).weight, #[⟨0, a.emptyPiece p⟩]⟩]
  versions := #[⟨0, .live⟩, ⟨1, .live⟩]

end

namespace EmptiesStart

variable {a : Automaton} {p : Nat}

/-- The first rule can be followed by the end of the source. -/
lemma testBit_follow (h : a.EmptiesStart p) :
    ((a.close #[⟨0, 0, bit 0⟩]).follow.getD 1 0).testBit 0 = true := by
  obtain ⟨t, hsteps, ht⟩ := h.start
  obtain ⟨s, hs, hsymbol, hinherits⟩ := h.starts
  have hrule : ¬ a.ruleSymbol 1 < a.terminals.size := Nat.not_lt.2 (Nat.le_add_right _ _)
  have hone : a.ruleSymbol 1 - a.terminals.size = 1 := Nat.add_sub_cancel_left _ _
  have hfollow : (a.close #[⟨0, 0, bit 0⟩]).follow =
      (a.starts.getD 1 #[]).toList.foldl (addStart (bit 0)) (Array.replicate a.kinds.size 0) := by
    simp only [close, productionOf, ← Array.foldl_toList, List.foldl_cons, List.foldl_nil, hsteps,
      ht, List.getElem?_toArray, List.getElem?_cons_zero, List.getElem?_cons_succ,
      List.getElem?_nil, hrule, if_false, hone]
    rfl
  rw [hfollow]
  exact testBit_foldl_addStart (Array.mem_toList_iff.2 hs) hsymbol hinherits
    (by rw [Array.size_replicate]; exact h.size) (by decide)

/-- Where one production can be finished and nothing can be read, it is finished.

**Proof sketch.** The item that can be finished is alone, so it has the highest level, and since
nothing can be read there is no conflict to decide. -/
lemma decide_of_singleton {s : State} {t : Nat} {i : Item}
    (hfinished : (s.items.toList.filter fun i =>
        i.dot == (a.productionOf i).steps.size && i.after.testBit t) ++
      (a.empties.toList.filterMap fun p =>
        let after := s.follow.getD (a.productions.getD p default).owner 0
        if after.testBit t then some ⟨p, 0, after⟩ else none) = [i])
    (hreading : (s.items.toList.filter fun i =>
      match (a.productionOf i).steps[i.dot]? with
      | some u => (a.first.getD u.symbol 0).testBit t
      | none => false) = []) :
    a.decide s t = ⟨[i.production], false⟩ := by
  have hbest : ([i].map a.level).foldl max (([i].head?.map a.level).getD 0) = a.level i :=
    Int.max_self _
  have hfilter : ([i].filter fun j => a.level j == a.level i) = [i] := by
    rw [List.filter_cons, if_pos (beq_self_eq_true _), List.filter_nil]
  unfold Automaton.decide
  simp only [hfinished, hbest, hfilter, List.mergeSort_singleton]
  refine (if_pos (Bool.or_eq_true_iff.2 (.inr (List.isEmpty_iff.2 hreading)))).trans ?_
  exact congrArg (Decision.mk [i.production]) (congrArg not (List.isEmpty_iff.2 hreading))

/-- At the start, the first rule is finished. -/
lemma decide_start (h : a.EmptiesStart p) :
    a.decide (a.close #[⟨0, 0, bit 0⟩]) 0 = ⟨[p], false⟩ := by
  obtain ⟨t, hsteps, ht⟩ := h.start
  have hitems : (a.close #[⟨0, 0, bit 0⟩]).items.toList = [⟨0, 0, bit 0⟩] := rfl
  have hempties : a.empties.toList = [p] := by rw [h.empties]
  refine decide_of_singleton (i := ⟨p, 0, (a.close #[⟨0, 0, bit 0⟩]).follow.getD 1 0⟩) ?_ ?_
  · rw [hitems, hempties, List.filter_cons, List.filter_nil, List.filterMap_cons,
      List.filterMap_nil]
    simp only [productionOf, hsteps, h.owner, h.testBit_follow, if_true]
    rfl
  · rw [hitems, List.filter_cons, List.filter_nil]
    simp only [productionOf, hsteps, List.getElem?_toArray, List.getElem?_cons_zero, ht, h.first]
    rfl

/-- After the first rule the start is finished, and nothing else can be.

**Proof sketch.** The closure of the finished start has this one item. The empty production would
need a follower of the first rule, and there is none. -/
lemma decide_after (h : a.EmptiesStart p) {after : Nat} (hafter : after.testBit 0 = true) :
    a.decide (a.close #[⟨0, 1, after⟩]) 0 = ⟨[0], false⟩ := by
  obtain ⟨t, hsteps, ht⟩ := h.start
  have hnone : (#[t] : Array (Step Nat))[1]? = none := rfl
  have hitems : (a.close #[⟨0, 1, after⟩]).items.toList = [⟨0, 1, after⟩] := rfl
  have hempties : a.empties.toList = [p] := by rw [h.empties]
  have hfollow : (a.close #[⟨0, 1, after⟩]).follow = Array.replicate a.kinds.size 0 := by
    simp only [close, productionOf, ← Array.foldl_toList, List.foldl_cons, List.foldl_nil, hsteps,
      hnone]
  have hzero : ((Array.replicate a.kinds.size 0).getD 1 0).testBit 0 = false := by
    rw [Array.getD_eq_getD_getElem?, Array.getElem?_replicate]
    split <;> rfl
  refine decide_of_singleton (i := ⟨0, 1, after⟩) ?_ ?_
  · rw [hitems, hempties, List.filter_cons, List.filter_nil, List.filterMap_cons,
      List.filterMap_nil]
    simp only [productionOf, hsteps, h.owner, hfollow, hzero, hafter]
    rfl
  · rw [hitems, List.filter_cons, List.filter_nil]
    simp only [productionOf, hsteps, hnone]
    rfl

/-- After the first rule there is one item, with the end of the source behind it. -/
lemma exists_advance (h : a.EmptiesStart p) : ∃ after, after.testBit 0 = true ∧
    a.advance (a.close #[⟨0, 0, bit 0⟩]) (a.ruleSymbol 1) = #[⟨0, 1, after⟩] := by
  obtain ⟨t, hsteps, ht⟩ := h.start
  have hitems : (a.close #[⟨0, 0, bit 0⟩]).items.toList = [⟨0, 0, bit 0⟩] := rfl
  have hleading : (a.leading.getD (a.ruleSymbol 1) #[]).toList = [0] := by rw [h.leading]
  simp only [advance, ← Array.foldl_toList, hitems, hleading, List.foldl_cons, List.foldl_nil,
    productionOf, hsteps, List.getElem?_toArray, List.getElem?_cons_zero, ht, beq_self_eq_true,
    if_true, h.canonical, Nat.zero_add, insertItem]
  split
  · exact ⟨bit 0, rfl, rfl⟩
  · refine ⟨bit 0 ||| _, ?_, rfl⟩
    rw [Nat.testBit_or]
    rfl

/-! ## The run -/

/-- The empty production finishes as the piece without parts. -/
lemma finish_empty (h : a.EmptiesStart p) : a.finish p [] 0 = a.emptyPiece p := by
  unfold Automaton.finish emptyPiece
  simp only [h.owner, List.foldl_nil, List.map_nil, Int.add_zero]
  rfl

/-- The first rule is finished without parts. -/
lemma reduce_start (h : a.EmptiesStart p) {m m' : Memo} {state : Nat}
    (hmove : a.move 0 (a.ruleSymbol 1) m = (some state, m')) :
    a.reduce p 0 ⟨m, Stack.initial, none⟩ = (some 1, ⟨m', a.emptyStack p state, none⟩) := by
  have hgroups : Stack.groupByNode (Stack.initial.pop (Stack.initial.top 0) 0) =
      [(0, [⟨0, [], 0⟩])] := rfl
  have hreading : a.chooseReading p (Stack.initial.node (Stack.initial.top 0)).stop [⟨0, [], 0⟩] =
      some (a.emptyPiece p, []) := by
    rw [← h.finish_empty]
    rfl
  have hnode : (Stack.initial.node 0).state = 0 := rfl
  unfold Automaton.reduce
  simp only [h.owner, h.steps, Array.size_empty, hgroups, List.foldl_cons, List.foldl_nil, hreading,
    hnode, hmove]
  rfl

/-- The decision at the start. -/
lemma decision_start (h : a.EmptiesStart p) : a.decision 0 0 a.memo =
    (⟨[p], false⟩,
      { a.memo with decisions := (∅ : Std.HashMap _ _).insert (0, 0) ⟨[p], false⟩ }) := by
  have hnone : a.memo.decisions[(0, 0)]? = none := Std.HashMap.getElem?_empty
  unfold decision
  simp only [hnone]
  rw [show a.memo.states.getD 0 default = a.close #[⟨0, 0, bit 0⟩] from rfl, h.decide_start]
  rfl

/-- After the first rule there is a new state, where the start is finished.

**Proof sketch.** The memory holds neither the move nor the state, so both are new and are numbered
next; the decision in the new state is `decide_after`. -/
lemma exists_move (h : a.EmptiesStart p) : ∃ m m' : Memo,
    (a.move 0 (a.ruleSymbol 1) { a.memo with
      decisions := (∅ : Std.HashMap _ _).insert (0, 0) ⟨[p], false⟩ }) = (some 1, m) ∧
      a.decision 1 0 m = (⟨[0], false⟩, m') := by
  obtain ⟨after, hafter, hadvance⟩ := h.exists_advance
  have hmoves : a.memo.moves[(0, a.ruleSymbol 1)]? = none := Std.HashMap.getElem?_empty
  have hnumbers : a.memo.numbers[(#[⟨0, 1, after⟩] : Array Item)]? = none := by
    refine (Std.HashMap.getElem?_insert).trans ?_
    rw [if_neg (by simp)]
    exact Std.HashMap.getElem?_empty
  have hstart : a.memo.states.getD 0 default = a.close #[⟨0, 0, bit 0⟩] := rfl
  have hone : (#[⟨0, 1, after⟩] : Array Item).isEmpty = false := rfl
  let m : Memo := {
    states := a.memo.states.push (a.close #[⟨0, 1, after⟩])
    numbers := a.memo.numbers.insert #[⟨0, 1, after⟩] 1
    moves := a.memo.moves.insert (0, a.ruleSymbol 1) (some 1)
    decisions := (∅ : Std.HashMap _ _).insert (0, 0) ⟨[p], false⟩ }
  have hdecisions : m.decisions[(1, 0)]? = none := by
    refine (Std.HashMap.getElem?_insert).trans ?_
    exact Std.HashMap.getElem?_empty
  refine ⟨m, { m with decisions := m.decisions.insert (1, 0) ⟨[0], false⟩ }, ?_, ?_⟩
  · unfold move
    simp only [hmoves, hstart, hadvance, hone, hnumbers]
    rfl
  · unfold decision
    simp only [hdecisions]
    rw [show m.states.getD 1 default = a.close #[⟨0, 1, after⟩] from rfl, h.decide_after hafter]

/-- The version with the first rule takes the place of the one without. -/
lemma renumber_emptyStack (state : Nat) :
    (a.emptyStack p state).renumber 1 0 = ⟨(a.emptyStack p state).nodes, #[⟨1, .live⟩]⟩ := by
  unfold Stack.renumber
  refine congrArg (Stack.mk _) ?_
  change (#[⟨1, .live⟩, ⟨1, .live⟩] : Array Version).eraseIdxIfInBounds 1 = _
  rw [Array.eraseIdxIfInBounds, dif_pos (by decide), List.eraseIdx_toArray]
  rfl

/-- The version with the first rule is a reading. -/
lemma accept_emptyStack {m : Memo} :
    Run.accept ⟨m, ⟨(a.emptyStack p 1).nodes, #[⟨1, .live⟩]⟩, none⟩ 0 0 =
      ⟨m, ⟨(a.emptyStack p 1).nodes, #[⟨1, .complete⟩]⟩, some (a.emptyPiece p)⟩ := by
  have hways : Stack.popAll ⟨(a.emptyStack p 1).nodes, #[⟨1, .live⟩]⟩ 1 =
      [⟨0, [a.emptyPiece p], 1⟩] := rfl
  have hsplit : Piece.splitTrailing [a.emptyPiece p] = ([a.emptyPiece p], []) := rfl
  have hreverse : [a.emptyPiece p].reverse = [.branch (a.ruleSymbol 1) (a.kinds.getD 1 none) [] 0 0
      (a.productions.getD p default).weight] := rfl
  unfold Run.accept
  simp only [show Stack.top ⟨(a.emptyStack p 1).nodes, #[⟨1, .live⟩]⟩ 0 = 1 from rfl, hways,
    List.filterMap_cons, List.filterMap_nil, hsplit, hreverse]
  rfl

/-- The end of the source is read from the start: the first rule is finished without parts, and then
the start.

**Proof sketch.** Two steps: the first rule is finished by its empty production, which leads to the
new state, and there the start is finished and its reading accepted. -/
lemma step_empty (h : a.EmptiesStart p) (fuel : Nat) : ∃ memo nodes,
    a.step (fuel + 2) 0 ⟨0, 0, 0⟩ ⟨a.memo, Stack.initial, none⟩ =
      ⟨memo, ⟨nodes, #[⟨1, .complete⟩]⟩, some (a.emptyPiece p)⟩ := by
  obtain ⟨m, m', hmove, hdecision⟩ := h.exists_move
  have hp : p ≠ 0 := by
    rintro rfl
    obtain ⟨t, hsteps, -⟩ := h.start
    cases h.steps.symm.trans hsteps
  have hcontains : [p].contains 0 = false := by
    rw [List.contains_cons, List.contains_nil, Bool.or_false, beq_eq_false_iff_ne]
    exact hp.symm
  have hstate : (Stack.initial.node (Stack.initial.top 0)).state = 0 := rfl
  have hstate' : (Stack.node ⟨(a.emptyStack p 1).nodes, #[⟨1, .live⟩]⟩
      (Stack.top ⟨(a.emptyStack p 1).nodes, #[⟨1, .live⟩]⟩ 0)).state = 1 := rfl
  have hfirst : a.step (fuel + 2) 0 ⟨0, 0, 0⟩ ⟨a.memo, Stack.initial, none⟩ =
      a.step (fuel + 1) 0 ⟨0, 0, 0⟩ ⟨m, ⟨(a.emptyStack p 1).nodes, #[⟨1, .live⟩]⟩, none⟩ := by
    conv_lhs => rw [step]
    simp only [hstate, h.not_comment, Bool.false_eq_true, if_false, h.decision_start, hcontains,
      List.foldl_cons, List.foldl_nil, h.reduce_start hmove]
    change a.step (fuel + 1) 0 ⟨0, 0, 0⟩ ⟨m, (a.emptyStack p 1).renumber 1 0, none⟩ = _
    rw [renumber_emptyStack]
  refine ⟨m', (a.emptyStack p 1).nodes, hfirst.trans ?_⟩
  rw [step]
  simp only [hstate', h.not_comment, Bool.false_eq_true, if_false, hdecision]
  exact (if_pos (List.contains_cons.trans rfl)).trans accept_emptyStack

/-- One turn reads the end of the source.

**Proof sketch.** The token that is read is the end of the source, and reading it is `step_empty`;
after that no version is left at this position. -/
lemma sweep_empty (h : a.EmptiesStart p) : ∃ memo nodes last,
    a.sweep #[] (4 * maxVersionsWithin) 0 (⟨a.memo, Stack.initial, none⟩, 0) =
      (⟨memo, ⟨nodes, #[⟨1, .complete⟩]⟩, some (a.emptyPiece p)⟩, last) := by
  have hfuel : a.stepFuel ⟨a.memo, Stack.initial, none⟩ =
      (3 * (a.kinds.size + 1) + 1) + 2 := by
    change 3 * (a.kinds.size + 2) = _
    omega
  have hstop : (Stack.initial.node (Stack.initial.top 0)).stop = 0 := rfl
  obtain ⟨memo, nodes, hstep⟩ := h.step_empty (3 * (a.kinds.size + 1) + 1)
  have hread : a.readToken #[] 0 ⟨a.memo, Stack.initial, none⟩ =
      ⟨memo, ⟨nodes, #[⟨1, .complete⟩]⟩, some (a.emptyPiece p)⟩ := by
    unfold readToken
    simp only [hstop, scan_empty]
    rw [hfuel]
    exact hstep
  have hcatch : a.catchUp #[] 2 0 (⟨a.memo, Stack.initial, none⟩, 0) =
      (⟨memo, ⟨nodes, #[⟨1, .complete⟩]⟩, some (a.emptyPiece p)⟩, 0) := by
    rw [catchUp]
    simp only [hread]
    rfl
  refine ⟨memo, nodes, 0, ?_⟩
  change a.sweep #[] (38 + 1 + 1) 0 _ = _
  rw [sweep]
  refine (if_pos Nat.zero_lt_one).trans ?_
  refine (congrArg (a.sweep #[] (38 + 1) 1) hcatch).trans ?_
  rw [sweep]
  exact if_neg (Nat.lt_irrefl 1)

/-- **The empty source is read** as the first rule without parts.

**Proof sketch.** One sweep completes the only version, so no version is left, and the reading that
was accepted is the result. -/
theorem parse_empty (h : a.EmptiesStart p) : a.parse #[] = .ok (a.emptyPiece p) := by
  obtain ⟨memo, nodes, last, hsweep⟩ := h.sweep_empty
  have hcondense : Stack.condense ⟨nodes, #[⟨1, .complete⟩]⟩ = ⟨nodes, #[]⟩ := by
    have hfilter : (#[⟨1, .complete⟩] : Array Version).filter (fun x => x.progress != .complete) =
        #[] := by decide
    unfold Stack.condense
    simp only [hfilter]
    rfl
  have hrun : (a.runFrom #[] ⟨a.memo, Stack.initial, none⟩ 0).reading = some (a.emptyPiece p) := by
    rw [runFrom, show 2 * (#[] : Array Char).size + 16 = 15 + 1 from rfl, rounds, hsweep]
    simp only [hcondense]
    rfl
  unfold parse
  generalize a.runFrom #[] ⟨a.memo, Stack.initial, none⟩ 0 = r at hrun ⊢
  simp only [hrun]

end EmptiesStart

end Automaton

end JavaTree.Grammar
