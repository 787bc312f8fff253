import Mathlib.Data.List.Basic
import JavaTree.Syntax.Build

/-!
# Places of nodes

A node of a tree is known by its place: the positions of the nodes on the way to it from the root,
each among its siblings.  In the lexicographic order of places a node comes before the nodes below
it, and these come in the order of the source.

Which nodes of a syntax tree are emitted as elements is described by places, without regard to how
the elements are built.

## Main definitions

* `SyntaxTree.at?` — the node at a place.
* `SyntaxTree.Emitted` — the places of the nodes that are emitted.
* `SyntaxTree.emitted` — these places in the order of the source.

## Main results

* `SyntaxTree.mem_emitted` — the list holds exactly the places of the nodes that are emitted.
* `SyntaxTree.pairwise_emitted` — it is in the order of the source, and holds no place twice.
-/

namespace JavaTree.SyntaxTree

/-- The node at a place. -/
def at? (t : SyntaxTree) : Place → Option SyntaxTree
  | [] => some t
  | i :: place => t.children[i]?.bind fun c => c.at? place

/-- A place whose node is emitted: on the way to it from below the root every node is named and of a
kind that is chosen, and no node above it is a leaf. -/
structure Emitted (f : NodeFilter) (t : SyntaxTree) (place : Place) : Prop where
  exists_node : ∃ n, t.at? place = some n
  shown : ∀ way, way <+: place → way ≠ [] → ∀ n, t.at? way = some n →
    n.named = true ∧ f.includes n.kind = true
  no_leaf_above : ∀ way, way <+: place → way ≠ place → ∀ n, t.at? way = some n →
    f.isLeaf n.kind = false

mutual

/-- The places of the nodes that are emitted, in the order of the source. -/
def emitted (f : NodeFilter) : SyntaxTree → List Place
  | ⟨kind, _, _, _, _, _, children⟩ =>
    [] :: if f.isLeaf kind then [] else emittedFrom f 0 children

/-- The places in a list of siblings, the first of which has a position. -/
def emittedFrom (f : NodeFilter) (i : Nat) : List SyntaxTree → List Place
  | [] => []
  | t :: ts =>
    (if shows f t then (emitted f t).map (i :: ·) else []) ++ emittedFrom f (i + 1) ts

end

/-- Induction on trees: a property that every tree has whose children have it. -/
theorem induction_children {motive : SyntaxTree → Prop}
    (node : ∀ t, (∀ c ∈ t.children, motive c) → motive t) : ∀ t, motive t
  | ⟨kind, text, named, missing, start, hasError, children⟩ =>
    node _ fun c (_hc : c ∈ children) => induction_children node c
termination_by t => sizeOf t
decreasing_by
  have hlt := List.sizeOf_lt_of_mem _hc
  simp only [mk.sizeOf_spec]
  omega

/-- A tree is emitted at its own place, and unless it is shown as a leaf with what is emitted of its
children. -/
lemma emitted_eq (f : NodeFilter) (t : SyntaxTree) :
    emitted f t = [] :: if f.isLeaf t.kind then [] else emittedFrom f 0 t.children := by
  cases t
  rfl

variable {f : NodeFilter} {t c n : SyntaxTree} {i : Nat} {place : Place}

/-! ## What is emitted -/

/-- A place is followed step by step. -/
lemma at?_append (t : SyntaxTree) (p q : Place) :
    t.at? (p ++ q) = (t.at? p).bind fun n => n.at? q := by
  induction p generalizing t with
  | nil => rfl
  | cons i p ih =>
    rw [List.cons_append, at?, at?]
    cases t.children[i]? with
    | none => rfl
    | some c => exact ih c

/-- The first step of a place leads to a child. -/
lemma at?_cons_of_getElem? (hc : t.children[i]? = some c) (place : Place) :
    t.at? (i :: place) = c.at? place := by
  rw [at?, hc, Option.bind_some]

/-- A tree is shown if it is named and of a kind that is included. -/
lemma shows_iff : shows f t = true ↔ t.named = true ∧ f.includes t.kind = true := by
  rw [shows, Bool.and_eq_true]

/-- The root is emitted in any case. -/
lemma emitted_root (f : NodeFilter) (t : SyntaxTree) : Emitted f t [] where
  exists_node := ⟨t, rfl⟩
  shown := fun _ hway hne => absurd (List.prefix_nil.1 hway) hne
  no_leaf_above := fun _ hway hne => absurd (List.prefix_nil.1 hway) hne

/-- A node below the root is emitted if its way leads from a root that is no leaf over a child that
is shown, and it is emitted in the tree of that child.

**Proof sketch.** The ways to a place below the root are the root itself and the ways in the child,
each with the step to the child before it. -/
lemma emitted_cons : Emitted f t (i :: place) ↔
    f.isLeaf t.kind = false ∧
      ∃ c, t.children[i]? = some c ∧ shows f c = true ∧ Emitted f c place := by
  constructor
  · intro h
    obtain ⟨n, hn⟩ := h.exists_node
    obtain ⟨c, hc, hn⟩ := Option.bind_eq_some_iff.1 hn
    have hway : ∀ way, t.at? (i :: way) = c.at? way := at?_cons_of_getElem? hc
    refine ⟨h.no_leaf_above [] List.nil_prefix (List.cons_ne_nil i place).symm t rfl, c, hc, ?_, ?_⟩
    · rw [shows_iff]
      exact h.shown [i] (List.cons_prefix_cons.2 ⟨rfl, List.nil_prefix⟩) (List.cons_ne_nil i []) c
        (hway [])
    · refine ⟨⟨n, hn⟩, fun way hpre hne m hm => ?_, fun way hpre hne m hm => ?_⟩
      · exact h.shown (i :: way) (List.cons_prefix_cons.2 ⟨rfl, hpre⟩) (List.cons_ne_nil i way) m
          ((hway way).trans hm)
      · refine h.no_leaf_above (i :: way) (List.cons_prefix_cons.2 ⟨rfl, hpre⟩) (fun he => ?_) m
          ((hway way).trans hm)
        exact hne (List.cons.inj he).2
  · rintro ⟨hleaf, c, hc, hshows, h⟩
    have hway : ∀ way, t.at? (i :: way) = c.at? way := at?_cons_of_getElem? hc
    refine ⟨?_, fun way hpre hne m hm => ?_, fun way hpre hne m hm => ?_⟩
    · obtain ⟨n, hn⟩ := h.exists_node
      exact ⟨n, (hway place).trans hn⟩
    · obtain rfl | ⟨way, rfl, hrest⟩ := List.prefix_cons_iff.1 hpre
      · exact absurd rfl hne
      · rw [hway] at hm
        by_cases hnil : way = []
        · subst hnil
          cases hm
          exact shows_iff.1 hshows
        · exact h.shown way hrest hnil m hm
    · obtain rfl | ⟨way, rfl, hrest⟩ := List.prefix_cons_iff.1 hpre
      · cases hm
        exact hleaf
      · rw [hway] at hm
        exact h.no_leaf_above way hrest (fun he => hne (by rw [he])) m hm

/-- A child of a node that is emitted is emitted if it is shown and the node is no leaf.

**Proof sketch.** Induction on the place, by `emitted_cons` at each step. -/
lemma emitted_append_singleton (hn : t.at? place = some n) (h : Emitted f t place) :
    Emitted f t (place ++ [i]) ↔
      f.isLeaf n.kind = false ∧ ∃ c, n.children[i]? = some c ∧ shows f c = true := by
  induction place generalizing t with
  | nil =>
    cases hn
    rw [List.nil_append, emitted_cons]
    refine and_congr_right fun _ => exists_congr fun c => and_congr_right fun _ => ?_
    exact and_iff_left (emitted_root f c)
  | cons j place ih =>
    obtain ⟨hleaf, c, hc, hshows, hemitted⟩ := emitted_cons.1 h
    rw [at?_cons_of_getElem? hc] at hn
    rw [List.cons_append, emitted_cons, ← ih hn hemitted]
    constructor
    · rintro ⟨-, d, hd, -, hd'⟩
      obtain rfl : c = d := Option.some.inj (hc.symm.trans hd)
      exact hd'
    · exact fun h' => ⟨hleaf, c, hc, hshows, h'⟩

/-- The node above a node that is emitted is emitted. -/
lemma Emitted.dropLast (h : Emitted f t place) : Emitted f t place.dropLast := by
  have hpre : place.dropLast <+: place := List.dropLast_prefix place
  refine ⟨?_, fun way hway => h.shown way (hway.trans hpre), fun way hway hne => ?_⟩
  · obtain ⟨n, hn⟩ := h.exists_node
    obtain ⟨last, hlast⟩ := hpre
    rw [← hlast, at?_append] at hn
    obtain ⟨m, hm, -⟩ := Option.bind_eq_some_iff.1 hn
    exact ⟨m, hm⟩
  · refine h.no_leaf_above way (hway.trans hpre) fun he => hne ?_
    subst he
    exact hway.eq_of_length (Nat.le_antisymm hway.length_le (by simp))

/-! ## The order of the source -/

/-- Nothing is emitted of children of which none is shown. -/
lemma emittedFrom_eq_nil {ts : List SyntaxTree} (h : ts.filter (shows f) = []) :
    emittedFrom f i ts = [] := by
  induction ts generalizing i with
  | nil => rfl
  | cons c ts ih =>
    rw [List.filter_cons] at h
    split at h
    · cases h
    · rename_i hshows
      rw [emittedFrom, if_neg hshows, ih h, List.append_nil]

/-- What is emitted of children is what is emitted of those that are shown.

**Proof sketch.** Induction on the children: a place goes on in the first one, or in one of the
others, whose numbers are shifted by one. -/
lemma mem_emittedFrom {ts : List SyntaxTree}
    (h : ∀ c ∈ ts, ∀ place, place ∈ emitted f c ↔ Emitted f c place) :
    place ∈ emittedFrom f i ts ↔ ∃ j rest c, place = (i + j) :: rest ∧ ts[j]? = some c ∧
      shows f c = true ∧ Emitted f c rest := by
  induction ts generalizing i with
  | nil => simp [emittedFrom]
  | cons c ts ih =>
    rw [emittedFrom, List.mem_append, ih fun d hd => h d (List.mem_cons_of_mem c hd)]
    constructor
    · rintro (hplace | ⟨j, rest, d, rfl, hd, hshows, hrest⟩)
      · split at hplace
        · rename_i hshows
          obtain ⟨rest, hrest, rfl⟩ := List.mem_map.1 hplace
          exact ⟨0, rest, c, rfl, rfl, hshows, (h c List.mem_cons_self rest).1 hrest⟩
        · cases hplace
      · exact ⟨j + 1, rest, d, by rw [Nat.add_assoc, Nat.add_comm 1 j], hd, hshows, hrest⟩
    · rintro ⟨_ | j, rest, d, rfl, hd, hshows, hrest⟩
      · obtain rfl : c = d := Option.some.inj hd
        refine .inl ?_
        rw [if_pos hshows]
        exact List.mem_map_of_mem ((h c List.mem_cons_self rest).2 hrest)
      · exact .inr ⟨j, rest, d, by rw [Nat.add_assoc, Nat.add_comm 1 j], hd, hshows, hrest⟩

/-- **The list holds exactly the places of the nodes that are emitted.**

**Proof sketch.** Induction on the tree, by `emitted_cons` and `mem_emittedFrom`. -/
theorem mem_emitted (t : SyntaxTree) (place : Place) :
    place ∈ emitted f t ↔ Emitted f t place := by
  induction t using induction_children generalizing place with
  | node t ih =>
    rw [emitted_eq, List.mem_cons]
    cases place with
    | nil => exact iff_of_true (.inl rfl) (emitted_root f t)
    | cons i rest =>
      rw [emitted_cons]
      cases f.isLeaf t.kind with
      | true => simp
      | false =>
        have hchildren := @mem_emittedFrom f 0 (i :: rest) t.children ih
        simp only [Bool.false_eq_true, ↓reduceIte, reduceCtorEq, false_or, hchildren, true_and]
        constructor
        · rintro ⟨j, rest', c, he, hc, hshows, hrest⟩
          obtain ⟨rfl, rfl⟩ := List.cons.inj he
          rw [Nat.zero_add]
          exact ⟨c, hc, hshows, hrest⟩
        · rintro ⟨c, hc, hshows, hrest⟩
          exact ⟨i, rest, c, by rw [Nat.zero_add], hc, hshows, hrest⟩

/-- What is emitted of children begins with the number of a child. -/
lemma exists_cons_of_mem_emittedFrom {ts : List SyntaxTree} (h : place ∈ emittedFrom f i ts) :
    ∃ j rest, place = j :: rest ∧ i ≤ j := by
  obtain ⟨j, rest, c, rfl, -⟩ := (mem_emittedFrom fun c _ => mem_emitted c).1 h
  exact ⟨i + j, rest, rfl, Nat.le_add_right i j⟩

/-- What is emitted of children is in order if it is for each of them.

**Proof sketch.** Induction on the children: places in one of them are in order by assumption, and
places in different ones by the number of the child. -/
lemma pairwise_emittedFrom {ts : List SyntaxTree}
    (h : ∀ c ∈ ts, (emitted f c).Pairwise (· < ·)) : (emittedFrom f i ts).Pairwise (· < ·) := by
  induction ts generalizing i with
  | nil => exact List.Pairwise.nil
  | cons c ts ih =>
    rw [emittedFrom, List.pairwise_append]
    refine ⟨?_, ih fun d hd => h d (List.mem_cons_of_mem c hd), fun p hp q hq => ?_⟩
    · split
      · refine List.pairwise_map.2 ((h c List.mem_cons_self).imp fun hlt => ?_)
        exact List.cons_lt_cons_iff.2 (.inr ⟨rfl, hlt⟩)
      · exact List.Pairwise.nil
    · split at hp
      · obtain ⟨rest, -, rfl⟩ := List.mem_map.1 hp
        obtain ⟨j, rest', rfl, hj⟩ := exists_cons_of_mem_emittedFrom hq
        exact List.cons_lt_cons_iff.2 (.inl hj)
      · cases hp

/-- **The list is in the order of the source**, and so holds no place twice. -/
theorem pairwise_emitted (f : NodeFilter) (t : SyntaxTree) :
    (emitted f t).Pairwise (· < ·) := by
  induction t using induction_children with
  | node t ih =>
    rw [emitted_eq, List.pairwise_cons]
    cases f.isLeaf t.kind with
    | true => simp
    | false =>
      refine ⟨fun place hplace => ?_, pairwise_emittedFrom ih⟩
      obtain ⟨j, rest, rfl, -⟩ := exists_cons_of_mem_emittedFrom hplace
      exact List.nil_lt_cons j rest

end JavaTree.SyntaxTree
