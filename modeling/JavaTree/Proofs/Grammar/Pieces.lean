import Mathlib.Data.List.Basic
import JavaTree.Grammar.Parse

/-!
# Properties of the pieces of a parse

A property that every token has, and that productions keep, is one of every piece that the parser
ever has on its stack, and so of the reading that it gives.

## Main definitions

* `Automaton.Keeps` — properties of tokens that productions keep.
* `Stack.Holds`, `Run.Holds` — stacks and parses all of whose pieces have a property.

## Main results

* `Automaton.holds_step` — a step of a version keeps the property.
* `Automaton.holds_rounds` — so do all versions up to the end of the source.
* `Automaton.holds_of_parse` — the reading of a source has the property.
-/

namespace JavaTree.Grammar

/-- A property that tokens have, and that pieces have which are put together from such pieces. -/
structure Automaton.Keeps (a : Automaton) (Q : Piece → Prop) : Prop where
  leaf : ∀ t, Q (a.leaf t)
  finish : ∀ production parts position, (∀ p ∈ parts, Q p) → Q (a.finish production parts position)
  parts : ∀ {s k ps i j w}, Q (.branch s k ps i j w) → ∀ p ∈ ps, Q p
  regroup : ∀ {s k ps i j w}, Q (.branch s k ps i j w) →
    ∀ {qs i' j'}, (∀ p ∈ qs, Q p) → Q (.branch s k qs i' j' w)

variable {Q : Piece → Prop}

/-! ## Nodes -/

/-- What holds of all entries of an array and of the default holds of each entry by number. -/
lemma forall_getD {α : Type} {p : α → Prop} {as : Array α} {a : α} (h : ∀ b ∈ as, p b) (ha : p a)
    (n : Nat) : p (as.getD n a) := by
  rw [Array.getD_eq_getD_getElem?]
  cases hn : as[n]? with
  | none => exact ha
  | some b => exact h b (Array.mem_of_getElem? hn)

/-- All pieces at nodes have a property. -/
def HoldsAll (Q : Piece → Prop) (nodes : Array Node) : Prop :=
  ∀ node ∈ nodes, ∀ l ∈ node.links, Q l.piece

section

variable {nodes : Array Node} {node : Node} {link : Link}

/-- The pieces at a node satisfy what all pieces do. -/
lemma HoldsAll.getD (h : HoldsAll Q nodes) (n : Nat) :
    ∀ l ∈ (nodes.getD n default).links, Q l.piece :=
  forall_getD h (fun l hl => absurd hl (Array.not_mem_empty l)) n

/-- The invariant is kept when a node is added whose pieces satisfy it. -/
lemma HoldsAll.push (h : HoldsAll Q nodes) (hnode : ∀ l ∈ node.links, Q l.piece) :
    HoldsAll Q (nodes.push node) := by
  intro m hm
  rcases Array.mem_push.1 hm with hm | rfl
  · exact h m hm
  · exact hnode

/-- The invariant is kept when a node is replaced by one whose pieces satisfy it. -/
lemma HoldsAll.set (h : HoldsAll Q nodes) (n : Nat) (hnode : ∀ l ∈ node.links, Q l.piece) :
    HoldsAll Q (nodes.set! n node) := by
  intro m hm
  rcases Array.mem_or_eq_of_mem_setIfInBounds hm with hm | rfl
  · exact h m hm
  · exact hnode

/-- The invariant is kept by changes of nodes that leave their links as they are. -/
lemma HoldsAll.modify (h : HoldsAll Q nodes) (n : Nat) {f : Node → Node}
    (hf : ∀ node, (f node).links = node.links) : HoldsAll Q (nodes.modify n f) := by
  intro m hm l hl
  obtain ⟨i, hi, rfl⟩ := Array.mem_iff_getElem.1 hm
  have hi' : i < nodes.size := by simpa using hi
  rw [Array.getElem_modify] at hl
  split at hl
  · rw [hf] at hl
    exact h _ (Array.getElem_mem hi') l hl
  · exact h _ (Array.getElem_mem hi') l hl

/-- Adding a way down keeps the property.  The induction is on the bound, since ways down may be
added to further nodes in turn.

**Proof sketch.** A link is put in the place of one with the same piece and the same node below, or
its node takes over the links below another one, or it is added behind the others. All links are old
ones or the new one. -/
lemma holds_addLink (fuel : Nat) (h : HoldsAll Q nodes) (n : Nat) (hlink : Q link.piece) :
    HoldsAll Q (Stack.addLink fuel nodes n link) := by
  induction fuel generalizing nodes n link with
  | zero => exact h
  | succ fuel ih =>
    have htarget := h.getD n
    have hunder := h.getD link.below
    unfold Stack.addLink
    split
    · exact h
    · simp only
      split
      · split
        · split
          · refine h.set n fun l hl => ?_
            rcases Array.mem_or_eq_of_mem_setIfInBounds hl with hl | rfl
            · exact htarget l hl
            · exact hlink
          · exact h
        · refine HoldsAll.modify ?_ n fun _ => rfl
          rw [← Array.foldl_toList]
          refine List.foldlRecOn _ _ h fun nodes hnodes l hl => ?_
          exact ih hnodes _ (hunder l (Array.mem_toList_iff.1 hl))
      · split
        · refine h.set n fun l hl => ?_
          rcases Array.mem_push.1 hl with hl | rfl
          · exact htarget l hl
          · exact hlink
        · exact h

end

/-! ## Stacks -/

namespace Stack

/-- All pieces of a stack have a property. -/
def Holds (Q : Piece → Prop) (s : Stack) : Prop := HoldsAll Q s.nodes

variable {s : Stack} {piece : Piece}

/-- The pieces at a node of a stack satisfy what all pieces of the stack do. -/
lemma Holds.node (h : s.Holds Q) (n : Nat) : ∀ l ∈ (s.node n).links, Q l.piece := h.getD n

/-- A stack that grows by a piece with the property keeps the invariant. -/
lemma Holds.grow (h : s.Holds Q) (below : Nat) (hpiece : Q piece) (state : Nat) :
    (s.grow below piece state).2.Holds Q := by
  refine HoldsAll.push h fun l hl => ?_
  obtain rfl : l = ⟨below, piece⟩ := by simpa using hl
  exact hpiece

/-- The invariant of a stack is kept when a version pushes a piece with the property. -/
lemma Holds.push (h : s.Holds Q) (v : Nat) (hpiece : Q piece) (state : Nat) :
    (s.push v piece state).Holds Q :=
  h.grow (s.top v) hpiece state

/-- The invariant of a stack is kept when one node takes over the links of another. -/
lemma Holds.absorb (h : s.Holds Q) (m n : Nat) : (s.absorb m n).Holds Q := by
  unfold Stack.absorb Holds
  rw [← Array.foldl_toList]
  refine List.foldlRecOn _ _ h fun nodes hnodes l hl => ?_
  exact holds_addLink _ hnodes m (h.node n l (Array.mem_toList_iff.1 hl))

/-- The invariant of a stack is kept when two of its versions are merged. -/
lemma Holds.merge (h : s.Holds Q) {n bound except : Nat} {merged : Stack}
    (hmerge : s.merge n bound except = some merged) : merged.Holds Q := by
  obtain ⟨j, -, rfl⟩ := Option.map_eq_some_iff.1 hmerge
  exact h.absorb _ n

/-- The invariant of a stack is kept when a version is settled against the others.

**Proof sketch.** Induction on the fuel, with one case for each way in which two versions compare;
only merging them changes nodes, and that is `Holds.absorb`. -/
lemma Holds.settle (fuel : Nat) (h : s.Holds Q) (status : Bool × Int) (x : Version) (j : Nat) :
    (settle fuel s status x j).Holds Q := by
  induction fuel generalizing s status x j with
  | zero => exact h
  | succ fuel ih =>
    unfold Stack.settle
    split
    · simp only
      split
      · exact h
      · refine ih ?_ _ _ _
        exact h
      · split
        · exact h.absorb _ _
        · exact ih h _ _ _
      · split
        · exact h.absorb _ _
        · refine ih ?_ _ _ _
          exact h
    · exact h

/-- The invariant of a stack is kept when it is condensed. -/
lemma Holds.condense (h : s.Holds Q) : s.condense.Holds Q := by
  unfold Stack.condense
  simp only
  rw [← Array.foldl_toList]
  refine List.foldlRecOn (motive := fun done => Holds Q done) _ _ h fun done hdone x _ => ?_
  exact hdone.settle _ _ _ _

/-! ## Ways down -/

/-- All pieces that have been taken off have a property. -/
def Descent.Holds (Q : Piece → Prop) (d : Descent) : Prop := ∀ p ∈ d.pieces, Q p

/-- A descent that follows a link takes its piece along. -/
lemma Descent.Holds.follow {d : Descent} (hd : d.Holds Q) {l : Link} (hl : Q l.piece) :
    (d.follow l).Holds Q :=
  List.forall_mem_cons.2 ⟨hl, hd⟩

/-- A descent through a stack that satisfies the invariant gathers pieces with the property only.

**Proof sketch.** Induction on the fuel. Descents that are done are kept, and those that are not
follow links, whose pieces are pieces of the stack. -/
lemma holds_descend (h : s.Holds Q) (done : Descent → Bool) (fuel : Nat) {ds : List Descent}
    (hds : ∀ d ∈ ds, d.Holds Q) : ∀ d ∈ s.descend done fuel ds, d.Holds Q := by
  induction fuel generalizing ds with
  | zero =>
    intro d hd
    cases hd
  | succ fuel ih =>
    cases ds with
    | nil =>
      intro d hd
      cases hd
    | cons e es =>
      have hunder : ∀ d ∈ (e :: es).filter fun d => !done d, d.Holds Q := fun d hd =>
        hds d (List.mem_filter.1 hd).1
      rw [descend]
      swap
      · exact List.cons_ne_nil e es
      refine List.forall_mem_append.2 ⟨fun d hd => hds d (List.mem_filter.1 hd).1, ih ?_⟩
      refine List.forall_mem_append.2 ⟨fun d hd => ?_, fun d hd => ?_⟩
      · obtain ⟨d', hd', hmap⟩ := List.mem_filterMap.1 hd
        obtain ⟨l, hl, rfl⟩ := Option.map_eq_some_iff.1 hmap
        exact (hunder d' hd').follow (h.node _ l (Array.mem_of_getElem? hl))
      · obtain ⟨d', hd', hmap⟩ := List.mem_flatMap.1 hd
        obtain ⟨l, hl, rfl⟩ := List.mem_map.1 hmap
        have hmem := Array.mem_toList_iff.1 (List.mem_of_mem_drop hl)
        exact (hunder d' hd').follow (h.node _ l hmem)

/-- A descent starts without pieces. -/
lemma holds_start (n : Nat) : ∀ d ∈ [(⟨n, [], 0⟩ : Descent)], d.Holds Q := by
  intro d hd p hp
  obtain rfl := List.mem_singleton.1 hd
  cases hp

/-- The pieces that are popped off a stack satisfy what all its pieces do. -/
lemma Holds.pop (h : s.Holds Q) (n count : Nat) : ∀ d ∈ s.pop n count, d.Holds Q :=
  holds_descend h _ _ (holds_start n)

/-- So do the pieces that are popped off all the way down. -/
lemma Holds.popAll (h : s.Holds Q) (n : Nat) : ∀ d ∈ s.popAll n, d.Holds Q :=
  holds_descend h _ _ (holds_start n)

/-- Descents are grouped, not made up. -/
lemma mem_of_mem_groupByNode {ds : List Descent} {group : Nat × List Descent}
    (h : group ∈ groupByNode ds) : ∀ d ∈ group.2, d ∈ ds := by
  obtain ⟨n, -, rfl⟩ := List.mem_map.1 h
  exact fun d hd => (List.mem_filter.1 hd).1

end Stack

/-! ## Parses -/

/-- All pieces of a parse have a property, and so has the reading that it has found. -/
structure Run.Holds (Q : Piece → Prop) (r : Run) : Prop where
  stack : r.stack.Holds Q
  reading : ∀ p, r.reading = some p → Q p

/-- Pieces are split off at the end, not made up. -/
lemma mem_of_mem_splitTrailing (parts : List Piece) :
    (∀ p ∈ (Piece.splitTrailing parts).1, p ∈ parts) ∧
      ∀ p ∈ (Piece.splitTrailing parts).2, p ∈ parts := by
  constructor
  · intro p hp
    exact List.mem_reverse.1 (List.dropWhile_subset _ (List.mem_reverse.1 hp))
  · intro p hp
    exact List.mem_reverse.1 (List.takeWhile_subset _ (List.mem_reverse.1 hp))

/-- Of two optional readings the one that stays has the property if both have it. -/
lemma holds_better {best : Option Piece} {p : Piece} (hbest : ∀ q, best = some q → Q q) (hp : Q p) :
    ∀ q, (match best with
      | none => some p
      | some old => if old.yieldsTo p then some p else some old) = some q → Q q := by
  intro q hq
  cases best with
  | none =>
    obtain rfl : p = q := Option.some.inj hq
    exact hp
  | some old =>
    simp only at hq
    split at hq
    · obtain rfl : p = q := Option.some.inj hq
      exact hp
    · obtain rfl : old = q := Option.some.inj hq
      exact hbest old rfl

/-- A version that has read everything keeps the property: its reading is a piece of the stack with
other parts.

**Proof sketch.** The readings are gone through one after the other. Each is a branch off the stack
whose parts are its own and other pieces that were popped with it. -/
lemma Run.Holds.accept {a : Automaton} {r : Run} (ha : a.Keeps Q) (h : r.Holds Q) (v stop : Nat) :
    (r.accept v stop).Holds Q := by
  refine ⟨h.stack, ?_⟩
  refine List.foldlRecOn (motive := fun best => ∀ p, best = some p → Q p) _ _ h.reading
    fun best hbest p hp => holds_better hbest ?_
  obtain ⟨d, hd, hp⟩ := List.mem_filterMap.1 hp
  have hpieces : ∀ q ∈ d.pieces, Q q := h.stack.popAll _ d hd
  obtain ⟨hparts, htrailing⟩ := mem_of_mem_splitTrailing d.pieces
  simp only at hp
  split at hp
  case h_1 s k ps i j w leading hsplit =>
    obtain rfl := Option.some.inj hp
    have hmem : ∀ q ∈ Piece.branch s k ps i j w :: leading, Q q := by
      intro q hq
      rw [← hsplit] at hq
      exact hpieces q (hparts q (List.mem_reverse.1 hq))
    obtain ⟨hbranch, hleading⟩ := List.forall_mem_cons.1 hmem
    refine ha.regroup hbranch ?_
    refine List.forall_mem_append.2 ⟨List.forall_mem_append.2 ⟨?_, ha.parts hbranch⟩, ?_⟩
    · exact fun q hq => hleading q (List.mem_reverse.1 hq)
    · exact fun q hq => hpieces q (htrailing q hq)
  case h_2 => cases hp

namespace Automaton

variable {a : Automaton} {source : Array Char} {r : Run}

/-- The reading that is chosen among ways down, and the comments after it, have the property.

**Proof sketch.** The descents are gone through one after the other, and the best reading so far is
kept or replaced by one that is finished from pieces of the stack. -/
lemma holds_chooseReading (ha : a.Keeps Q) {production position : Nat} {ds : List Stack.Descent}
    (hds : ∀ d ∈ ds, d.Holds Q) {piece : Piece} {trailing : List Piece}
    (h : a.chooseReading production position ds = some (piece, trailing)) :
    Q piece ∧ ∀ c ∈ trailing, Q c := by
  refine List.foldlRecOn (motive := fun best => ∀ x, best = some x → Q x.1 ∧ ∀ c ∈ x.2, Q c)
    _ _ ?_ ?_ (piece, trailing) h
  · intro x hx
    cases hx
  · intro best hbest d hd x hx
    obtain ⟨hparts, htrailing⟩ := mem_of_mem_splitTrailing d.pieces
    have hpiece := ha.finish production _ position fun p hp => hds d hd p (hparts p hp)
    have hrest := fun p hp => hds d hd p (htrailing p hp)
    cases best with
    | none =>
      obtain rfl := Option.some.inj hx
      exact ⟨hpiece, hrest⟩
    | some old =>
      simp only at hx
      split at hx
      · obtain rfl := Option.some.inj hx
        exact ⟨hpiece, hrest⟩
      · obtain rfl := Option.some.inj hx
        exact hbest old rfl

/-- Comments that are put on top of one another keep the property. -/
lemma holds_growAll (state : Nat) {trailing : List Piece} (htrailing : ∀ c ∈ trailing, Q c)
    {x : Nat × Stack} (hx : x.2.Holds Q) :
    (trailing.foldl (fun (n, (stack : Stack)) c => stack.grow n c state) x).2.Holds Q := by
  refine List.foldlRecOn (motive := fun (x : Nat × Stack) => x.2.Holds Q) _ _ hx fun x hx c hc => ?_
  exact hx.grow x.1 (htrailing c hc) state

/-- Finishing a production keeps the property.

**Proof sketch.** The groups of descents are gone through one after the other; the reading that is
chosen and the comments behind it are put on the stack again. -/
lemma holds_reduce (ha : a.Keeps Q) (h : r.Holds Q) (production v : Nat) :
    (a.reduce production v r).2.Holds Q := by
  unfold reduce
  simp only
  refine List.foldlRecOn (motive := fun r => Run.Holds Q r) _ _ h fun r' h' group hgroup => ?_
  have hds : ∀ d ∈ group.2, d.Holds Q := fun d hd =>
    h.stack.pop _ _ d (Stack.mem_of_mem_groupByNode hgroup d hd)
  split
  · exact h'
  · split
    · exact h'
    · rename_i piece trailing hchoose
      obtain ⟨hpiece, htrailing⟩ := holds_chooseReading ha hds hchoose
      split
      · exact ⟨h'.stack, h'.reading⟩
      · rename_i state memo hmove
        refine ⟨?_, h'.reading⟩
        have hgrown := holds_growAll state htrailing (h'.stack.grow group.1 hpiece state)
        split
        · rename_i merged hmerge
          exact hgrown.merge hmerge
        · exact hgrown

/-- Finishing several productions, one after the other, keeps the property. -/
lemma holds_reduceAll (ha : a.Keeps Q) (h : r.Holds Q) (productions : List Nat) (v : Nat) :
    (productions.foldl (fun ((last : Option Nat), r) p =>
      let (n, r) := a.reduce p v r
      (n <|> last, r)) (none, r)).2.Holds Q := by
  refine List.foldlRecOn (motive := fun (x : Option Nat × Run) => x.2.Holds Q) _ _ h ?_
  intro x hx p _
  exact holds_reduce ha hx p v

/-- A step of a version keeps the property.  The induction is on the bound, since a reduction can
call for another one.

**Proof sketch.** By what the decision is: a token is pushed, a production is finished, everything
is accepted, or the version stops. -/
lemma holds_step (ha : a.Keeps Q) (fuel : Nat) (h : r.Holds Q) (v : Nat) (token : Token) :
    (a.step fuel v token r).Holds Q := by
  induction fuel generalizing r token with
  | zero => exact ⟨h.stack, h.reading⟩
  | succ fuel ih =>
    unfold step
    simp only
    split
    · exact ⟨h.stack.push v (ha.leaf token) _, h.reading⟩
    · split
      rename_i d memo _
      have hr : Run.Holds Q { r with memo := memo } := ⟨h.stack, h.reading⟩
      have hreduced := holds_reduceAll ha hr d.reductions v
      simp only at hreduced
      split
      · exact hr.accept ha v _
      · split
        · split
          · exact ⟨hreduced.stack.push v (ha.leaf token) _, hreduced.reading⟩
          · exact ⟨hreduced.stack, hreduced.reading⟩
        · refine ih ⟨?_, ?_⟩ token
          · exact hreduced.stack
          · exact hreduced.reading
        · split
          · exact ih hreduced _
          · exact ⟨hreduced.stack, hreduced.reading⟩

/-- Reading a token keeps the property. -/
lemma holds_readToken (ha : a.Keeps Q) (h : r.Holds Q) (v : Nat) :
    (a.readToken source v r).Holds Q := by
  unfold readToken
  simp only
  split
  · exact ⟨h.stack, h.reading⟩
  · exact holds_step ha _ h v _

/-- Reading tokens until a version is past the others keeps the property. -/
lemma holds_catchUp (ha : a.Keeps Q) (fuel v : Nat) {x : Run × Nat} (h : x.1.Holds Q) :
    (a.catchUp source fuel v x).1.Holds Q := by
  induction fuel generalizing x with
  | zero => exact h
  | succ fuel ih =>
    have hread : (a.readToken source v x.1).Holds Q := holds_readToken ha h v
    unfold catchUp
    simp only
    split
    · exact hread
    · split
      · exact hread
      · exact ih hread

/-- A turn of every version keeps the property. -/
lemma holds_sweep (ha : a.Keeps Q) (fuel v : Nat) {x : Run × Nat} (h : x.1.Holds Q) :
    (a.sweep source fuel v x).1.Holds Q := by
  induction fuel generalizing v x with
  | zero => exact h
  | succ fuel ih =>
    unfold sweep
    simp only
    split
    · refine ih (v + 1) ?_
      split
      · exact holds_catchUp ha _ v h
      · exact h
    · exact h

/-- Turns up to the end of the source keep the property. -/
lemma holds_rounds (ha : a.Keeps Q) (fuel : Nat) {x : Run × Nat} (h : x.1.Holds Q) :
    (a.rounds source fuel x).Holds Q := by
  induction fuel generalizing x with
  | zero => exact h
  | succ fuel ih =>
    have hsweep : (a.sweep source (4 * maxVersionsWithin) 0 x).1.Holds Q := holds_sweep ha _ 0 h
    have hcondensed := hsweep.stack.condense
    unfold rounds
    simp only
    split
    · exact ⟨hcondensed, hsweep.reading⟩
    · split
      · exact ⟨hcondensed, hsweep.reading⟩
      · exact ih ⟨hcondensed, hsweep.reading⟩

/-- **Readings are made of tokens by productions**: a property that all tokens have and that
productions keep is one of the reading of a source.

**Proof sketch.** A run begins with a stack without pieces, and every round keeps the property, so
the reading in the end has it. -/
theorem holds_of_parse (ha : a.Keeps Q) {piece : Piece} (h : a.parse source = .ok piece) :
    Q piece := by
  have hinitial : Run.Holds Q ⟨a.memo, Stack.initial, none⟩ := by
    refine ⟨fun node hnode l hl => ?_, fun p hp => ?_⟩
    · obtain rfl : node = ⟨0, 0, 0, #[]⟩ := by simpa [Stack.initial] using hnode
      exact absurd hl (Array.not_mem_empty l)
    · cases hp
  have hrun : (a.runFrom source ⟨a.memo, Stack.initial, none⟩ 0).Holds Q :=
    holds_rounds ha _ hinitial
  unfold parse at h
  simp only at h
  split at h
  · rename_i p hreading
    obtain rfl : p = piece := Except.ok.inj h
    exact hrun.reading p hreading
  · cases h

end Automaton

end JavaTree.Grammar
