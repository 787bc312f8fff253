import Mathlib.Data.Prod.Lex
import Mathlib.Order.Bounds.Basic
import JavaTree.Extraction
import JavaTree.Proofs.Syntax.Places

/-!
# The mistake that is reported

A tree that is marked as holding a mistake has no element.  What is reported in its stead is the
first mistake in preorder: a node comes before the nodes below it, and these come in the order of
the source.  The search goes below marked nodes only, which hides no mistake as long as the marks
are right.

## Main definitions

* `SyntaxTree.preorder` — the nodes of a tree in preorder, as far as there is reason to go below
  them.
* `Point.lineFirst` — places in the order of lines, and in the order of bytes within a line.

## Main results

* `SyntaxTree.mem_preorder_iff` — which nodes are in the list.
* `SyntaxTree.findMistakeIn?_eq` — the search goes through marked nodes in preorder.
* `SyntaxTree.Faithful.find?_preorder` — where the marks are right, it hides nothing.
* `SyntaxTree.findMistake_first` — what is reported, and when.
-/

namespace JavaTree

namespace SyntaxTree

/-! ## Nodes in preorder -/

mutual

/-- The nodes of a tree in preorder.  Only below those nodes that satisfy `enter` there are more. -/
def preorder (enter : SyntaxTree → Bool) : SyntaxTree → List SyntaxTree
  | ⟨kind, text, named, missing, start, hasError, children⟩ =>
    ⟨kind, text, named, missing, start, hasError, children⟩ ::
      if enter ⟨kind, text, named, missing, start, hasError, children⟩ then
        preorderAll enter children
      else []

/-- The nodes of a list of trees, those of each tree in preorder. -/
def preorderAll (enter : SyntaxTree → Bool) : List SyntaxTree → List SyntaxTree
  | [] => []
  | t :: ts => preorder enter t ++ preorderAll enter ts

end

/-- All nodes of a tree in preorder. -/
def nodes (t : SyntaxTree) : List SyntaxTree := t.preorder fun _ => true

variable {enter : SyntaxTree → Bool} {t n : SyntaxTree}

/-- A tree comes before what is in it. -/
lemma preorder_eq (enter : SyntaxTree → Bool) (t : SyntaxTree) :
    t.preorder enter = t :: if enter t then preorderAll enter t.children else [] := by
  cases t
  rfl

/-- Trees come one after the other. -/
lemma preorderAll_eq_flatMap (enter : SyntaxTree → Bool) (ts : List SyntaxTree) :
    preorderAll enter ts = ts.flatMap (preorder enter) := by
  induction ts with
  | nil => rfl
  | cons t ts ih => rw [preorderAll, List.flatMap_cons, ih]

/-- The order of trees in a row is that of the first part, then of the second. -/
lemma preorderAll_append (enter : SyntaxTree → Bool) (ts us : List SyntaxTree) :
    preorderAll enter (ts ++ us) = preorderAll enter ts ++ preorderAll enter us := by
  simp only [preorderAll_eq_flatMap, List.flatMap_append]

/-- In trees one after the other the same node is found if it is so in each of them. -/
lemma find?_preorderAll_congr {enter' p : SyntaxTree → Bool} {ts : List SyntaxTree}
    (h : ∀ t ∈ ts, (t.preorder enter).find? p = (t.preorder enter').find? p) :
    (preorderAll enter ts).find? p = (preorderAll enter' ts).find? p := by
  induction ts with
  | nil => rfl
  | cons t ts ih =>
    rw [preorderAll, preorderAll, List.find?_append, List.find?_append, h t List.mem_cons_self,
      ih fun u hu => h u (List.mem_cons_of_mem t hu)]

/-- **Which nodes are in the list**: those at a place that is reached from the root through nodes
that satisfy `enter`.

**Proof sketch.** Induction on the tree. A place below the root goes on in a child, and the ways to
it are the root and the ways in the child. -/
theorem mem_preorder_iff : n ∈ t.preorder enter ↔
    ∃ place, t.at? place = some n ∧
      ∀ way, way <+: place → way ≠ place → ∀ m, t.at? way = some m → enter m = true := by
  induction t using induction_children generalizing n with
  | node t ih =>
    rw [preorder_eq, List.mem_cons]
    constructor
    · rintro (rfl | hn)
      · exact ⟨[], rfl, fun way hway hne => absurd (List.prefix_nil.1 hway) hne⟩
      · split at hn
        · rename_i henter
          rw [preorderAll_eq_flatMap, List.mem_flatMap] at hn
          obtain ⟨c, hc, hn⟩ := hn
          obtain ⟨place, hat, habove⟩ := (ih c hc).1 hn
          obtain ⟨i, hi⟩ := List.getElem?_of_mem hc
          refine ⟨i :: place, (at?_cons_of_getElem? hi place).trans hat,
            fun way hway hne m hm => ?_⟩
          obtain rfl | ⟨rest, rfl, hrest⟩ := List.prefix_cons_iff.1 hway
          · cases hm
            exact henter
          · rw [at?_cons_of_getElem? hi] at hm
            exact habove rest hrest (fun he => hne (by rw [he])) m hm
        · cases hn
    · rintro ⟨_ | ⟨i, place⟩, hat, habove⟩
      · exact .inl (Option.some.inj hat).symm
      · obtain ⟨c, hi, hat⟩ := Option.bind_eq_some_iff.1 hat
        have henter : enter t = true :=
          habove [] List.nil_prefix (List.cons_ne_nil i place).symm t rfl
        refine .inr ?_
        rw [if_pos henter, preorderAll_eq_flatMap, List.mem_flatMap]
        have hc : c ∈ t.children := List.mem_of_getElem? hi
        refine ⟨c, hc, (ih c hc).2 ⟨place, hat, fun way hway hne m hm => ?_⟩⟩
        refine habove (i :: way) (List.cons_prefix_cons.2 ⟨rfl, hway⟩) (fun he => ?_) m
          ((at?_cons_of_getElem? hi way).trans hm)
        exact hne (List.cons.inj he).2

/-- All nodes of a tree are in the list of its nodes. -/
lemma mem_nodes_iff : n ∈ t.nodes ↔ ∃ place, t.at? place = some n := by
  rw [nodes, mem_preorder_iff]
  simp

/-- A tree is a node of itself. -/
lemma self_mem_nodes (t : SyntaxTree) : t ∈ t.nodes := mem_nodes_iff.2 ⟨[], rfl⟩

/-- A node of a child is a node of the tree. -/
lemma mem_nodes_of_mem_children {c : SyntaxTree} (hc : c ∈ t.children) (hn : n ∈ c.nodes) :
    n ∈ t.nodes := by
  rw [nodes, preorder_eq, if_pos rfl, preorderAll_eq_flatMap]
  exact List.mem_cons_of_mem t (List.mem_flatMap.2 ⟨c, hc, hn⟩)

/-! ## The search -/

/-- **The search goes through marked nodes in preorder**, for one pending tree after the other.

**Proof sketch.** Induction on the search. What is taken up next is always the next node in
preorder: the children of a marked node stand before the trees that were pending behind it. -/
theorem findMistakeIn?_eq (pending : List SyntaxTree) :
    findMistakeIn? pending = (preorderAll (·.hasError) pending).find? isMistake := by
  fun_induction findMistakeIn? pending with
  | case1 => rfl
  | case2 t rest hmistake =>
    rw [preorderAll, preorder_eq, List.cons_append, List.find?_cons_of_pos hmistake]
  | case3 t rest hmistake hmarked ih =>
    rw [ih, preorderAll, preorder_eq, if_pos hmarked, List.cons_append,
      List.find?_cons_of_neg hmistake, preorderAll_append]
  | case4 t rest hmistake hmarked ih =>
    rw [ih, preorderAll, preorder_eq, if_neg hmarked, List.singleton_append,
      List.find?_cons_of_neg hmistake]

/-- The mistake in a tree is the first one in preorder through the marked nodes. -/
lemma findMistakeIn?_singleton (t : SyntaxTree) :
    findMistakeIn? [t] = (t.preorder (·.hasError)).find? isMistake := by
  rw [findMistakeIn?_eq, preorderAll, preorderAll, List.append_nil]

/-! ## Right marks -/

/-- Trees are faithful if each of them is. -/
lemma allFaithful_iff {ts : List SyntaxTree} : AllFaithful ts ↔ ∀ t ∈ ts, t.Faithful := by
  induction ts with
  | nil => simp [AllFaithful]
  | cons t ts ih => simp [AllFaithful, ih]

/-- A tree is faithful if its own mark is right and its children are faithful. -/
lemma faithful_iff : t.Faithful ↔
    (t.hasError = true ↔ t.isMistake = true ∨ ∃ c ∈ t.children, c.hasError = true) ∧
      ∀ c ∈ t.children, c.Faithful := by
  obtain ⟨kind, text, named, missing, start, hasError, children⟩ := t
  rw [Faithful, allFaithful_iff]
  simp [isMistake]

namespace Faithful

/-- A tree is marked if and only if there is a mistake in it.

**Proof sketch.** Induction on the tree: its mark says whether it is a mistake or has a marked
child. -/
lemma hasError_iff (h : t.Faithful) : t.hasError = true ↔ ∃ n ∈ t.nodes, n.isMistake = true := by
  induction t using induction_children with
  | node t ih =>
    obtain ⟨hmark, hchildren⟩ := faithful_iff.1 h
    rw [hmark]
    constructor
    · rintro (hmistake | ⟨c, hc, hmarked⟩)
      · exact ⟨t, self_mem_nodes t, hmistake⟩
      · obtain ⟨n, hn, hmistake⟩ := (ih c hc (hchildren c hc)).1 hmarked
        exact ⟨n, mem_nodes_of_mem_children hc hn, hmistake⟩
    · rintro ⟨n, hn, hmistake⟩
      rw [nodes, preorder_eq, if_pos rfl, preorderAll_eq_flatMap, List.mem_cons,
        List.mem_flatMap] at hn
      rcases hn with rfl | ⟨c, hc, hn⟩
      · exact .inl hmistake
      · exact .inr ⟨c, hc, (ih c hc (hchildren c hc)).2 ⟨n, hn, hmistake⟩⟩

/-- **Where the marks are right, they hide no mistake**: there is none below a node without mark.

**Proof sketch.** Induction on the tree. A node without mark holds no mistakes, so nothing is lost
by passing over what is below it; the children of a marked node are searched one after the other. -/
theorem find?_preorder (h : t.Faithful) :
    (t.preorder (·.hasError)).find? isMistake = t.nodes.find? isMistake := by
  induction t using induction_children with
  | node t ih =>
    have hchildren := (faithful_iff.1 h).2
    by_cases hmarked : t.hasError = true
    · have hbelow : (preorderAll (·.hasError) t.children).find? isMistake =
          (preorderAll (fun _ => true) t.children).find? isMistake :=
        find?_preorderAll_congr fun c hc => ih c hc (hchildren c hc)
      rw [nodes, preorder_eq, preorder_eq, if_pos hmarked, if_pos rfl, List.find?_cons,
        List.find?_cons, hbelow]
    · have hnone : ∀ n ∈ t.nodes, ¬n.isMistake = true :=
        fun n hn hmistake => hmarked (h.hasError_iff.2 ⟨n, hn, hmistake⟩)
      rw [List.find?_eq_none.2 hnone, preorder_eq, if_neg hmarked, List.find?_eq_none]
      exact fun n hn => hnone n (List.mem_singleton.1 hn ▸ self_mem_nodes t)

end Faithful

end SyntaxTree

/-! ## What is reported -/

/-- Places in the order of lines, and within a line in the order of bytes. -/
def Point.lineFirst (p : Point) : ℕ ×ₗ ℕ := toLex (p.row, p.column)

/-- Points are compared by line first, then by column. -/
lemma Point.lineFirst_le_iff {p q : Point} :
    p.lineFirst ≤ q.lineFirst ↔ p.row < q.row ∨ p.row = q.row ∧ p.column ≤ q.column :=
  Prod.Lex.toLex_le_toLex

namespace SyntaxTree

/-- The nodes of a tree start one after the other in preorder. -/
def StartsInOrder (t : SyntaxTree) : Prop :=
  t.nodes.Pairwise fun m n => m.start.lineFirst ≤ n.start.lineFirst

variable {t n : SyntaxTree} {f : NodeFilter}

/-- The first mistake starts first, if the nodes start in preorder. -/
lemma StartsInOrder.lineFirst_le {first : SyntaxTree} (h : t.StartsInOrder)
    (hfirst : t.nodes.find? isMistake = some first) (hn : n ∈ t.nodes)
    (hmistake : n.isMistake = true) : first.start.lineFirst ≤ n.start.lineFirst := by
  obtain ⟨-, before, behind, hnodes, hbefore⟩ := List.find?_eq_some_iff_append.1 hfirst
  rw [StartsInOrder, hnodes] at h
  rw [hnodes, List.mem_append, List.mem_cons] at hn
  rcases hn with hn | rfl | hn
  · have hno := hbefore n hn
    rw [hmistake] at hno
    cases hno
  · exact le_rfl
  · exact List.rel_of_pairwise_cons (List.pairwise_append.1 h).2.1 hn

/-- A tree is refused if it is marked, with the mistake that is found in it. -/
lemma elementOfTree_eq_error_iff {m : SyntaxMistake} :
    elementOfTree f t = .error m ↔ t.hasError = true ∧ m = .ofNode t.findMistake := by
  unfold elementOfTree
  split
  · rename_i hmarked
    rw [Except.error.injEq, eq_comm (a := m), and_iff_right hmarked]
  · rename_i hmarked
    simp [hmarked]

/-- **The mistake that is reported.** From a marked root the first mistake is reported that is
reached in preorder through marked nodes, and the root itself if none is reached. Where the marks
are right, a tree has no element if and only if there is a mistake at any depth of it; the search
succeeds then, with the first of all mistakes; and if the nodes start in preorder, the place in the
report is the least place of a mistake.

**Proof sketch.** The search goes through marked nodes in preorder. Where the marks are right, there
is a mistake in the tree if and only if the root is marked, and nothing is hidden by the marks. -/
theorem findMistake_first (t : SyntaxTree) :
    (t.hasError = true → ∀ f, elementOfTree f t = .error (.ofNode t.findMistake)) ∧
    t.findMistake = ((t.preorder (·.hasError)).find? isMistake).getD t ∧
    (t.Faithful →
      (∀ f, (∃ m, elementOfTree f t = .error m) ↔
        ∃ place n, t.at? place = some n ∧ n.isMistake = true) ∧
      (t.hasError = true → findMistakeIn? [t] = some t.findMistake ∧
        t.nodes.find? isMistake = some t.findMistake) ∧
      (t.StartsInOrder → ∀ f m, elementOfTree f t = .error m →
        IsLeast {p | ∃ place n, t.at? place = some n ∧ n.isMistake = true ∧
          p = toLex (n.start.row + 1, n.start.column + 1)} (toLex (m.line, m.column)))) := by
  have hsearch := findMistakeIn?_singleton t
  have hfind : t.findMistake = ((t.preorder (·.hasError)).find? isMistake).getD t := by
    rw [findMistake, hsearch]
  refine ⟨fun hmarked f => elementOfTree_eq_error_iff.2 ⟨hmarked, rfl⟩, hfind,
    fun hfaithful => ?_⟩
  have hnodes := hfaithful.find?_preorder
  have hfirst : t.hasError = true → t.nodes.find? isMistake = some t.findMistake := by
    intro hmarked
    obtain ⟨n, hn, hmistake⟩ := hfaithful.hasError_iff.1 hmarked
    obtain ⟨first, hfirst⟩ := Option.isSome_iff_exists.1 (List.find?_isSome.2 ⟨n, hn, hmistake⟩)
    rw [hfind, hnodes, hfirst, Option.getD_some]
  refine ⟨fun f => ?_, fun hmarked => ?_, fun hordered f m hm => ?_⟩
  · simp only [elementOfTree_eq_error_iff, exists_and_left, exists_eq, and_true,
      hfaithful.hasError_iff, mem_nodes_iff]
    constructor
    · rintro ⟨n, ⟨place, hplace⟩, hmistake⟩
      exact ⟨place, n, hplace, hmistake⟩
    · rintro ⟨place, n, hplace, hmistake⟩
      exact ⟨n, ⟨place, hplace⟩, hmistake⟩
  · rw [hsearch, hnodes, hfirst hmarked]
    exact ⟨rfl, rfl⟩
  · obtain ⟨hmarked, rfl⟩ := elementOfTree_eq_error_iff.1 hm
    have hfirst := hfirst hmarked
    obtain ⟨place, hplace⟩ := mem_nodes_iff.1 (List.mem_of_find?_eq_some hfirst)
    refine ⟨⟨place, t.findMistake, hplace, List.find?_some hfirst, rfl⟩, ?_⟩
    rintro - ⟨place, n, hplace, hmistake, rfl⟩
    have hle := Point.lineFirst_le_iff.1
      (hordered.lineFirst_le hfirst (mem_nodes_iff.2 ⟨place, hplace⟩) hmistake)
    rw [Prod.Lex.toLex_le_toLex]
    simp only [SyntaxMistake.ofNode]
    omega

/-- A tree in which a token is missing deep in an earlier child, and a later child is a mistake. -/
def troubledTree : SyntaxTree :=
  { kind := "program", hasError := true
    children :=
      [{ kind := "line_comment", start := ⟨0, 0⟩, text := "// ERROR" },
       { kind := "block", start := ⟨1, 0⟩, hasError := true
         children :=
          [{ kind := "\x7b", named := false, start := ⟨1, 0⟩ },
           { kind := "local_variable_declaration", start := ⟨1, 2⟩, hasError := true
             children :=
              [{ kind := "integral_type", start := ⟨1, 2⟩, text := "int" },
               { kind := ";", named := false, missing := true, start := ⟨1, 7⟩,
                 hasError := true }] }] },
       { kind := errorKind, start := ⟨2, 1⟩, hasError := true
         children := [{ kind := "identifier", start := ⟨2, 1⟩, text := "x" }] }] }

/-- Of the mistakes in the troubled tree the missing token is reported, which is the first one. -/
theorem findMistake_first_troubledTree :
    troubledTree.hasError = true ∧ troubledTree.Faithful ∧ troubledTree.StartsInOrder ∧
    elementOfTree ⟨[], [], []⟩ troubledTree = .error ⟨2, 8, some ";"⟩ ∧
    IsLeast {p | ∃ place n, troubledTree.at? place = some n ∧ n.isMistake = true ∧
      p = toLex (n.start.row + 1, n.start.column + 1)} (toLex (2, 8)) := by
  have hfaithful : troubledTree.Faithful := by
    simp [troubledTree, Faithful, AllFaithful, errorKind]
  have hordered : troubledTree.StartsInOrder := by
    unfold StartsInOrder
    decide
  obtain ⟨herror, hfind, hright⟩ := findMistake_first troubledTree
  have hreport : elementOfTree ⟨[], [], []⟩ troubledTree = .error ⟨2, 8, some ";"⟩ := by
    rw [herror rfl, hfind]
    rfl
  exact ⟨rfl, hfaithful, hordered, hreport, (hright hfaithful).2.2 hordered _ _ hreport⟩

end SyntaxTree

end JavaTree
