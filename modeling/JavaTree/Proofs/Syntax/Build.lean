import JavaTree.Proofs.Syntax.Element

/-!
# Building from pending nodes

The list of pending nodes makes the element that direct recursion makes: each node that is emitted
is taken off the list once, in the order of the source, and then its element is filled.

## Main definitions

* `Building.Visits` — the nodes that are taken off the list, with the places of their elements.

## Main results

* `SyntaxTree.build_eq_toElement` — the element that is built is that of direct recursion.
* `SyntaxTree.build_emitted` — the element described by places.

## Implementation notes

While a node is pending its element is empty.  While the nodes below a node are pending, the element
of the node holds finished elements first, and empty ones after them: this is the invariant of
`Building.visits_siblings`.
-/

namespace JavaTree

namespace Xml.Node

variable {change change' : Node → Node} {n m : Node} {p q : Place}

/-- A change below a child changes that child and no other. -/
lemma children_modifyAt_cons (change : Node → Node) (i : Nat) (p : Place) (n : Node) :
    (n.modifyAt change (i :: p)).children = n.children.modify i (modifyAt change p) := by
  cases n with
  | element tag text children tail => rfl
  | comment text tail => exact (List.modify_nil _ _).symm
  | instruction target text tail => exact (List.modify_nil _ _).symm

/-- Above a place that is changed, the change is one below. -/
lemma at?_modifyAt (change : Node → Node) (p q : Place) (n : Node) :
    (n.modifyAt change (p ++ q)).at? p = (n.at? p).map (modifyAt change q) := by
  induction p generalizing n with
  | nil => rfl
  | cons i p ih =>
    rw [List.cons_append, at?, at?, children_modifyAt_cons, List.getElem?_modify_eq]
    cases n.children[i]? with
    | none => rfl
    | some c => exact ih c

/-- Two changes, the first below the second, are one. -/
lemma modifyAt_modifyAt (p q : Place) (n : Node) :
    (n.modifyAt change (p ++ q)).modifyAt change' p =
      n.modifyAt (fun m => change' (m.modifyAt change q)) p := by
  induction p generalizing n with
  | nil => rfl
  | cons i p ih =>
    cases n with
    | element tag text children tail =>
      rw [List.cons_append, modifyAt, modifyAt, modifyAt, List.modify_modify_eq]
      congr 2
      funext c
      exact ih c
    | comment text tail => rfl
    | instruction target text tail => rfl

/-- A change that changes nothing leaves a node as it is. -/
lemma modifyAt_id (p : Place) (n : Node) : n.modifyAt id p = n := by
  induction p generalizing n with
  | nil => rfl
  | cons i p ih =>
    have hid : modifyAt id p = id := funext ih
    cases n with
    | element tag text children tail => rw [modifyAt, hid, List.modify_id]
    | comment text tail => rfl
    | instruction target text tail => rfl

/-- A node with another one at a place. -/
def setAt (n : Node) (place : Place) (m : Node) : Node := n.modifyAt (fun _ => m) place

/-- A change at a place sets the node there to what the change makes of it.

**Proof sketch.** Induction on the place: the change is made in the child on the way. -/
lemma modifyAt_eq_setAt (h : n.at? p = some m) : n.modifyAt change p = n.setAt p (change m) := by
  induction p generalizing n with
  | nil =>
    cases h
    rfl
  | cons i p ih =>
    obtain ⟨c, hc, h⟩ := Option.bind_eq_some_iff.1 h
    have hchange := ih h
    cases n with
    | element tag text children tail =>
      have hc' : children[i]? = some c := hc
      rw [setAt] at hchange ⊢
      rw [modifyAt, modifyAt, List.modify_eq_set, List.modify_eq_set, hc', Option.getD_some,
        hchange]
    | comment text tail => cases hc
    | instruction target text tail => cases hc

/-- A node is left as it is when what is at a place is set there. -/
lemma setAt_of_at? (h : n.at? p = some m) : n.setAt p m = n := by
  have hid := @modifyAt_eq_setAt id n m p h
  rw [modifyAt_id] at hid
  exact hid.symm

/-- What was changed at a place does not matter once the node there is set. -/
lemma setAt_modifyAt (n : Node) (p : Place) (m : Node) :
    (n.modifyAt change p).setAt p m = n.setAt p m := by
  have hboth := @modifyAt_modifyAt change (fun _ => m) p [] n
  rwa [List.append_nil] at hboth

/-- A change is seen at its place. -/
lemma at?_modifyAt_self (h : n.at? p = some m) : (n.modifyAt change p).at? p = some (change m) := by
  have hself := at?_modifyAt change p [] n
  rwa [List.append_nil, h] at hself

/-- What was set below a place does not matter once the node there is set. -/
lemma setAt_append_setAt (n : Node) (p q : Place) (m m' : Node) :
    (n.setAt (p ++ q) m).setAt p m' = n.setAt p m' :=
  modifyAt_modifyAt p q n

/-! ## Elements among others -/

section

variable {name : String} {done todo : List Node}

/-- The first child that is still to come stands behind those that are done. -/
lemma at?_child (h : n.at? p = some (.parent name (done ++ m :: todo))) :
    n.at? (p ++ [done.length]) = some m := by
  rw [at?_append, h, Option.bind_some, at?]
  simp only [parent, children]
  rw [List.getElem?_append_right (Nat.le_refl _), Nat.sub_self]
  rfl

/-- The element around one that is changed holds the others as before. -/
lemma at?_setAt_child {m' : Node} (h : n.at? p = some (.parent name (done ++ m :: todo))) :
    (n.setAt (p ++ [done.length]) m').at? p = some (.parent name (done ++ m' :: todo)) := by
  rw [setAt, at?_modifyAt, h, Option.map_some, parent, modifyAt, List.modify_eq_set,
    List.set_append_right _ _ (Nat.le_refl _), Nat.sub_self, List.set_cons_zero]
  simp [parent, modifyAt]

end

end Xml.Node

namespace Building

/-- Steps that take nodes off the list, each with the place of its element. -/
inductive Visits (f : NodeFilter) : Building → List (SyntaxTree × Place) → Building → Prop
  | done (b : Building) : Visits f b [] b
  | step {b b' c : Building} {v : SyntaxTree × Place} {vs : List (SyntaxTree × Place)}
      (hhead : b.pending.head? = some v) (hstep : b.step f = some b') (hrest : Visits f b' vs c) :
      Visits f b (v :: vs) c

/-- Nodes of a tree, with the places of their elements below the place of a root. -/
def visited (f : NodeFilter) (t : SyntaxTree) (place : Place) (nodes : List Place) :
    List (SyntaxTree × Place) :=
  nodes.filterMap fun p => (t.at? p).map fun n => (n, place ++ t.elementPlace f p)

variable {f : NodeFilter} {t : SyntaxTree} {place : Place} {b b' c : Building}

/-- Two parts of a traversal make one. -/
lemma Visits.append {vs us : List (SyntaxTree × Place)} (h : Visits f b vs b')
    (h' : Visits f b' us c) : Visits f b (vs ++ us) c := by
  induction h with
  | done => exact h'
  | step hhead hstep _ ih => exact .step hhead hstep (ih h')

/-! ## Steps -/

/-- A node below which nothing is shown gets its text. -/
lemma step_of_nil (h : t.shownChildren f = []) (rest : List (SyntaxTree × Place))
    (root : Xml.Node) :
    step f ⟨(t, place) :: rest, root⟩ =
      some ⟨rest, root.modifyAt (.setText (Xml.spelled t.text)) place⟩ := by
  rw [step, ← Xml.legible_eq_spelled]
  split
  · rfl
  · rename_i hleaf
    rw [SyntaxTree.shownChildren, if_neg hleaf] at h
    rw [h]

/-- Another node gets empty elements, which become pending before all others. -/
lemma step_of_ne_nil (h : t.shownChildren f ≠ []) (rest : List (SyntaxTree × Place))
    (root : Xml.Node) :
    step f ⟨(t, place) :: rest, root⟩ =
      some ⟨childPlaces place (t.shownChildren f) ++ rest,
        root.modifyAt (.addChildren ((t.shownChildren f).map fun c => .bare c.kind)) place⟩ := by
  rw [step]
  split
  · rename_i hleaf
    exact absurd (if_pos hleaf) h
  · rename_i hleaf
    rw [SyntaxTree.shownChildren, if_neg hleaf] at h ⊢
    split
    · rename_i hnil
      exact absurd hnil h
    · rfl

/-! ## The invariant -/

/-- The nodes below a node come child by child. -/
lemma visited_emittedFrom_cons {before ts : List SyntaxTree} {d : SyntaxTree}
    (ht : t.children = before ++ d :: ts) (hshows : SyntaxTree.shows f d = true) :
    visited f t place (SyntaxTree.emittedFrom f before.length (d :: ts)) =
      visited f d (place ++ [before.countP (SyntaxTree.shows f)]) (d.emitted f) ++
        visited f t place (SyntaxTree.emittedFrom f (before.length + 1) ts) := by
  have hat : ∀ p, t.at? (before.length :: p) = d.at? p :=
    SyntaxTree.at?_cons_of_getElem? (SyntaxTree.getElem?_children ht)
  have hplace : ∀ p, t.elementPlace f (before.length :: p) =
      before.countP (SyntaxTree.shows f) :: d.elementPlace f p :=
    SyntaxTree.elementPlace_of_append ht
  rw [SyntaxTree.emittedFrom, if_pos hshows, visited, List.filterMap_append, List.filterMap_map]
  simp [visited, hat, hplace]

/-- A tree is finished before what is pending after it. -/
def Finishes (f : NodeFilter) (t : SyntaxTree) : Prop :=
  ∀ (place : Place) (rest : List (SyntaxTree × Place)) (root : Xml.Node),
    root.at? place = some (.bare t.kind) →
    Visits f ⟨(t, place) :: rest, root⟩ (visited f t place (t.emitted f))
      ⟨rest, root.setAt place (t.toElement f)⟩

/-- **Siblings are finished one after the other.**

**Proof sketch.** Induction on the siblings that are left. The elements of those before them are
finished, and theirs are empty. The first one that is shown is finished with all that is below it,
which changes its own element only. -/
lemma visits_siblings {before ts : List SyntaxTree} (ht : t.children = before ++ ts)
    (h : ∀ c ∈ ts, Finishes f c) (rest : List (SyntaxTree × Place)) {root : Xml.Node}
    (hroot : root.at? place = some (.parent t.kind
      ((before.filter (SyntaxTree.shows f)).map (SyntaxTree.toElement f) ++
        (ts.filter (SyntaxTree.shows f)).map fun c => .bare c.kind))) :
    Visits f
      ⟨((ts.filter (SyntaxTree.shows f)).zipIdx (before.countP (SyntaxTree.shows f))).map
        (fun (c, i) => (c, place ++ [i])) ++ rest, root⟩
      (visited f t place (SyntaxTree.emittedFrom f before.length ts))
      ⟨rest, root.setAt place (.parent t.kind
        ((t.children.filter (SyntaxTree.shows f)).map (SyntaxTree.toElement f)))⟩ := by
  induction ts generalizing before root with
  | nil =>
    rw [List.append_nil] at ht
    rw [ht]
    rw [List.filter_nil, List.map_nil, List.append_nil] at hroot
    rw [Xml.Node.setAt_of_at? hroot]
    exact .done _
  | cons c ts ih =>
    have ht' : t.children = (before ++ [c]) ++ ts := by rw [ht]; simp
    have hts : ∀ d ∈ ts, Finishes f d := fun d hd => h d (List.mem_cons_of_mem c hd)
    have hlength : (before ++ [c]).length = before.length + 1 := List.length_append
    cases hshows : SyntaxTree.shows f c with
    | false =>
      -- nothing is pending for this child, and the places of the elements do not count it
      have hnext := @ih (before ++ [c]) ht' hts root (by simpa [hshows] using hroot)
      simpa [SyntaxTree.emittedFrom, hshows, hlength] using hnext
    | true =>
      have hcount : (before ++ [c]).countP (SyntaxTree.shows f) =
          before.countP (SyntaxTree.shows f) + 1 := by
        rw [List.countP_append, List.countP_singleton, hshows, if_pos rfl]
      have hdone : ((before.filter (SyntaxTree.shows f)).map (SyntaxTree.toElement f)).length =
          before.countP (SyntaxTree.shows f) := by
        rw [List.length_map, List.countP_eq_length_filter]
      rw [List.filter_cons_of_pos hshows, List.map_cons] at hroot
      have hchild := Xml.Node.at?_child hroot
      have hset := @Xml.Node.at?_setAt_child _ _ _ _ _ _ (c.toElement f) hroot
      -- the first empty element stands right after those that are finished
      rw [hdone] at hchild hset
      have hroot' : (root.setAt (place ++ [before.countP (SyntaxTree.shows f)])
          (c.toElement f)).at? place = some (.parent t.kind
            (((before ++ [c]).filter (SyntaxTree.shows f)).map (SyntaxTree.toElement f) ++
              (ts.filter (SyntaxTree.shows f)).map fun c => .bare c.kind)) := by
        rw [hset, List.filter_append, List.filter_cons_of_pos hshows]
        simp
      have hfirst := h c List.mem_cons_self (place ++ [before.countP (SyntaxTree.shows f)])
        (((ts.filter (SyntaxTree.shows f)).zipIdx (before.countP (SyntaxTree.shows f) + 1)).map
          (fun (c, i) => (c, place ++ [i])) ++ rest) root hchild
      have hnext := ih ht' hts hroot'
      rw [hcount, hlength, Xml.Node.setAt_append_setAt] at hnext
      rw [List.filter_cons_of_pos hshows, List.zipIdx_cons, List.map_cons,
        visited_emittedFrom_cons ht hshows]
      exact hfirst.append hnext

/-- **Every tree is finished before what is pending after it.**

**Proof sketch.** Induction on the tree. A tree that shows no children gets its text in one step.
Otherwise the step adds bare children, which `visits_siblings` finishes one after the other. -/
theorem finishes (f : NodeFilter) (t : SyntaxTree) : Finishes f t := by
  induction t using SyntaxTree.induction_children with
  | node t ih =>
    intro place rest root hroot
    have hself : t.at? [] = some t ∧ place ++ t.elementPlace f [] = place :=
      ⟨rfl, List.append_nil place⟩
    by_cases h : t.shownChildren f = []
    · have hlist : visited f t place (t.emitted f) = [(t, place)] := by
        rw [SyntaxTree.emitted_of_nil h, visited]
        simp [hself]
      rw [hlist, SyntaxTree.toElement_of_nil h]
      refine .step rfl (step_of_nil h rest root) ?_
      rw [Xml.Node.modifyAt_eq_setAt hroot]
      exact .done _
    · have hlist : visited f t place (t.emitted f) =
          (t, place) :: visited f t place (SyntaxTree.emittedFrom f 0 t.children) := by
        rw [SyntaxTree.emitted_of_ne_nil h, visited]
        simp [hself, visited]
      have hshown := (SyntaxTree.shownChildren_of_ne_nil h).2
      rw [hlist, SyntaxTree.toElement_of_ne_nil h]
      refine .step rfl (step_of_ne_nil h rest root) ?_
      rw [hshown]
      set root' := root.modifyAt (.addChildren
        ((t.children.filter (SyntaxTree.shows f)).map fun c => .bare c.kind)) place with hroot'
      have hat : root'.at? place = some (.parent t.kind
          ((t.children.filter (SyntaxTree.shows f)).map fun c => .bare c.kind)) :=
        Xml.Node.at?_modifyAt_self hroot
      have hrest := @visits_siblings f t place [] t.children rfl ih rest root' hat
      rw [hroot', Xml.Node.setAt_modifyAt] at hrest
      exact hrest

/-! ## The whole list -/

/-- A step does not change the element that comes out in the end. -/
lemma finish_of_step (h : b.step f = some b') : b.finish f = b'.finish f := by
  rw [finish]
  split
  · rename_i hnone
    rw [hnone] at h
    cases h
  · rename_i hsome
    rw [hsome] at h
    cases h
    rfl

/-- The visits of a traversal do not change the element that comes out in the end. -/
lemma Visits.finish_eq {vs : List (SyntaxTree × Place)} (h : Visits f b vs c) :
    b.finish f = c.finish f := by
  induction h with
  | done => rfl
  | step _ hstep _ ih => rw [finish_of_step hstep, ih]

/-- Nothing is left to do when no tree is pending. -/
lemma finish_nil (f : NodeFilter) (root : Xml.Node) : finish f ⟨[], root⟩ = root := by
  rw [finish]
  rfl

/-- A traversal visits the emitted places in their order and ends with the element of the tree. -/
lemma visits_start (f : NodeFilter) (t : SyntaxTree) :
    Visits f (start t) (visited f t [] (t.emitted f)) ⟨[], t.toElement f⟩ :=
  finishes f t [] [] (.bare t.kind) rfl

end Building

namespace SyntaxTree

/-- **The element that is built from pending nodes is that of direct recursion.** -/
theorem build_eq_toElement (f : NodeFilter) (t : SyntaxTree) : t.build f = t.toElement f := by
  rw [build, (Building.visits_start f t).finish_eq, Building.finish_nil]

/-- **The element of a tree by places.** Taking pending nodes off the list comes to an end; each
node that is emitted is taken off once, in the order of the source. Their elements are all that
there are: they have the kinds of the nodes as names, come in the same order, and lie in each other
as the nodes do. An element holds the text of its node, as documents spell it, if no child of the
node is emitted; else it holds elements and no text.

**Proof sketch.** What is built is the element by direct recursion, whose places, names and texts
are known. That every node is taken off once is the invariant of the pending nodes: what is pending
first is finished, with all that is below it, before what is pending after it. -/
theorem build_emitted (f : NodeFilter) (t : SyntaxTree) :
    ((t.emitted f).Pairwise (· < ·) ∧ ∀ place, place ∈ t.emitted f ↔ Emitted f t place) ∧
    Building.Visits f (.start t)
      ((t.emitted f).filterMap fun place =>
        (t.at? place).map fun n => (n, t.elementPlace f place)) ⟨[], t.build f⟩ ∧
    (t.build f).places = (t.emitted f).map (t.elementPlace f) ∧
    (t.build f).names =
      (t.emitted f).filterMap (fun place => (t.at? place).map fun n => n.kind) ∧
    (∀ place, Emitted f t place → place ≠ [] →
      Emitted f t place.dropLast ∧ t.elementPlace f place ≠ [] ∧
        (t.elementPlace f place).dropLast = t.elementPlace f place.dropLast) ∧
    ∀ place n, Emitted f t place → t.at? place = some n →
      ((∀ i, ¬ Emitted f t (place ++ [i])) →
        (t.build f).at? (t.elementPlace f place) =
          some (.element ⟨{ part := n.kind }, [], []⟩ (some (Xml.spelled n.text)) [] none)) ∧
      ((∃ i, Emitted f t (place ++ [i])) →
        ∃ elements ≠ [], (t.build f).at? (t.elementPlace f place) =
          some (.element ⟨{ part := n.kind }, [], []⟩ none elements none)) := by
  rw [build_eq_toElement]
  refine ⟨⟨pairwise_emitted f t, mem_emitted t⟩, Building.visits_start f t, places_toElement f t,
    names_toElement f t, fun place h hne => ⟨h.dropLast, elementPlace_dropLast h hne⟩,
    fun place n h hn => ⟨fun hnone => ?_, fun hsome => ?_⟩⟩
  · have hnil := (shownChildren_eq_nil_iff hn h).2 hnone
    rw [at?_toElement h hn, toElement_of_nil hnil, Xml.Node.leaf]
  · have hne : n.shownChildren f ≠ [] := fun hnil => by
      obtain ⟨i, hi⟩ := hsome
      exact (shownChildren_eq_nil_iff hn h).1 hnil i hi
    refine ⟨(n.shownChildren f).map (toElement f), fun hnil => hne (List.map_eq_nil_iff.1 hnil), ?_⟩
    rw [at?_toElement h hn, toElement_of_ne_nil hne, Xml.Node.parent]

end SyntaxTree

end JavaTree
