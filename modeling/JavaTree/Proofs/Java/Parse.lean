import JavaTree.Java.Parse
import JavaTree.Proofs.Grammar.Compile
import JavaTree.Proofs.Syntax.Document

/-!
# Trees of Java sources

The tree of a Java source that has no mistake can be written as a document: whatever the source
says, its nodes have kinds that the grammar mentions, and these are names.

## Main definitions

* `Java.PlainGrammar`, `Java.plainGrammar` — grammars with what is checked of them by computing, and
  that of Java.

## Main results

* `Grammar.Piece.nameable_of_mem_toTrees` — a piece stands for trees whose kinds are those in it.
* `Java.nameable_parse` — the tree of a source without mistakes has names for kinds.
* `Java.hasError_parse_eq_false_iff` — a source has no mistakes if and only if it can be read.
-/

namespace JavaTree

/-! ## Pieces -/

/-- Trees that are nameable one by one are all nameable. -/
lemma SyntaxTree.allNameable_of_forall {ts : List SyntaxTree} (h : ∀ t ∈ ts, t.Nameable) :
    SyntaxTree.AllNameable ts := by
  induction ts with
  | nil => trivial
  | cons t ts ih =>
    obtain ⟨ht, hts⟩ := List.forall_mem_cons.1 h
    exact ⟨fun _ => ht, ih hts⟩

namespace Grammar.Piece

variable {source : Array Char}

mutual

/-- The trees that a piece stands for have the kinds of its nodes. -/
theorem nameable_of_mem_toTrees : ∀ {p : Piece}, (∀ k ∈ p.kinds, Xml.IsName k) →
    ∀ t ∈ p.toTrees source, t.Nameable
  | token _ none _ _ _, _, t, ht => by
    cases ht
  | token _ (some kind) _ _ _, h, t, ht => by
    obtain rfl := List.mem_singleton.1 ht
    exact ⟨h kind (List.mem_singleton_self kind), trivial⟩
  | branch _ none _ _ _ _, h, t, ht => nameable_of_mem_allTrees h t ht
  | branch _ (some kind) _ _ _ _, h, t, ht => by
    obtain ⟨hkind, hparts⟩ := List.forall_mem_cons.1 h
    obtain rfl := List.mem_singleton.1 ht
    exact ⟨hkind, SyntaxTree.allNameable_of_forall (nameable_of_mem_allTrees hparts)⟩

/-- The trees that a list of pieces stands for have the kinds of their nodes. -/
theorem nameable_of_mem_allTrees : ∀ {ps : List Piece}, (∀ k ∈ allKinds ps, Xml.IsName k) →
    ∀ t ∈ allTrees source ps, t.Nameable
  | [], _, t, ht => by
    cases ht
  | _ :: _, h, t, ht => by
    obtain ⟨hp, hps⟩ := List.forall_mem_append.1 h
    rcases List.mem_append.1 ht with ht | ht
    · exact nameable_of_mem_toTrees hp t ht
    · exact nameable_of_mem_allTrees hps t ht

end

mutual

/-- The trees that a piece stands for have no mistakes. -/
theorem hasError_of_mem_toTrees : ∀ {p : Piece}, ∀ t ∈ p.toTrees source, t.hasError = false
  | token _ none _ _ _, t, ht => by
    cases ht
  | token _ (some _) _ _ _, t, ht => by
    obtain rfl := List.mem_singleton.1 ht
    rfl
  | branch _ none _ _ _ _, t, ht => hasError_of_mem_allTrees t ht
  | branch _ (some _) _ _ _ _, t, ht => by
    obtain rfl := List.mem_singleton.1 ht
    rfl

/-- The trees that a list of pieces stands for have no mistakes. -/
theorem hasError_of_mem_allTrees : ∀ {ps : List Piece}, ∀ t ∈ allTrees source ps, t.hasError = false
  | [], t, ht => by
    cases ht
  | _ :: _, t, ht => by
    rcases List.mem_append.1 ht with ht | ht
    · exact hasError_of_mem_toTrees t ht
    · exact hasError_of_mem_allTrees t ht

end

end Grammar.Piece

/-! ## Sources -/

namespace Java

/-- The bytes of a text, taken as characters.  They are its characters when all of these take one
byte. -/
def plainChars (s : String) : List Char := s.toByteArray.data.toList.map fun b => Char.ofNat b.toNat

/-- Whether a text consists of characters that names can start with and that take one byte. -/
def isPlainName (s : String) : Bool :=
  String.ofList (plainChars s) == s && !(plainChars s).isEmpty &&
    (plainChars s).all Xml.isNameStart

/-- A plain name is a name of elements. -/
lemma isName_of_isPlainName {s : String} (h : isPlainName s = true) : Xml.IsName s := by
  obtain ⟨⟨hs, hne⟩, hall⟩ := by simpa only [isPlainName, Bool.and_eq_true, beq_iff_eq] using h
  have hchars : s.toList = plainChars s :=
    (congrArg String.toList hs.symm).trans String.toList_ofList
  cases hcs : plainChars s with
  | nil =>
    rw [hcs] at hne
    cases hne
  | cons c cs =>
    rw [hcs, List.all_eq_true] at hall
    refine ⟨c, cs, hchars.trans hcs, hall c List.mem_cons_self, fun d hd => ?_⟩
    rw [Xml.isNameChar, Bool.or_eq_true]
    exact .inl (hall d (List.mem_cons_of_mem c hd))

/-- A grammar whose kinds are plain names, and in which a source can be empty. -/
structure PlainGrammar where
  rules : Grammar.RuleSet
  tokens_plain : ∀ t ∈ rules.tokens, isPlainName t.name = true
  rules_plain : ∀ name ∈ rules.rules.map (·.1), isPlainName name = true
  kinds_plain : ∀ r ∈ rules.rules, ∀ k ∈ r.2.kinds, isPlainName k = true
  emptyFirst : rules.EmptyFirst

/-- The kinds of a grammar with plain names are names of elements. -/
lemma PlainGrammar.isName_of_mem_kinds (g : PlainGrammar) {k : String} (hk : k ∈ g.rules.kinds) :
    Xml.IsName k := by
  refine isName_of_isPlainName ?_
  rcases Grammar.RuleSet.mem_kinds.1 hk with ⟨t, ht, -, rfl⟩ | ⟨hname, -⟩ | ⟨r, hr, hk⟩
  · exact g.tokens_plain t ht
  · exact g.rules_plain k hname
  · exact g.kinds_plain r hr k hk

/-- The grammar of Java with what is checked of it. -/
def plainGrammar : PlainGrammar where
  rules := grammar
  tokens_plain := by decide +kernel
  rules_plain := by decide +kernel
  kinds_plain := by decide +kernel
  emptyFirst :=
    { once := by decide +kernel
      first := by decide +kernel
      rest := by decide +kernel }

/-- A text is parsed by the automaton from its blank mark on. -/
lemma parse_eq (text : String) :
    parse text = treeOf text.toList.toArray (blankMark text.toList.toArray)
      (automaton.parse (blankMark text.toList.toArray)) := by
  delta parse
  rfl

/-- Every kind in a piece that the automaton gives is a name of elements. -/
lemma isName_of_parse {source : Array Char} {piece : Grammar.Piece}
    (h : automaton.parse source = .ok piece) : ∀ k ∈ piece.kinds, Xml.IsName k := by
  rw [automaton] at h
  intro k hk
  exact plainGrammar.isName_of_mem_kinds (Grammar.RuleSet.mem_kinds_of_parse h k hk)

/-- The kinds of named nodes are those of rules, of visible tokens, and of parts of rules. -/
lemma mem_nodeKinds_iff {k : String} : k ∈ nodeKinds ↔ some k ∈ automaton.kinds ∨
    (∃ c ∈ automaton.terminals, c.visible = true ∧ c.name = k) ∨
      ∃ p ∈ automaton.productions, ∃ t ∈ p.steps, t.kind = some k := by
  simp only [nodeKinds, List.mem_mergeSort, List.mem_eraseDups, List.mem_append, or_assoc,
    List.mem_filterMap, List.mem_map, List.mem_filter, List.mem_flatMap, Array.mem_toList_iff,
    id_eq, and_assoc, exists_eq_right]

/-- **Kinds that the grammar does not mention** are those of no node. -/
theorem mem_kinds_of_mem_nodeKinds {k : String} (hk : k ∈ nodeKinds) : k ∈ grammar.kinds := by
  have hgives := grammar.gives_compile
  rcases mem_nodeKinds_iff.1 hk with hk | ⟨c, hc, hvisible, rfl⟩ | ⟨p, hp, t, ht, hk⟩
  · exact hgives.rules k hk
  · exact hgives.tokens c hc hvisible
  · exact hgives.steps p hp t ht k hk

/-- The names of visible tokens, and of rules that are seen, are kinds of nodes. -/
lemma mem_nodeKinds_of_visible {k : String}
    (hk : (∃ t ∈ grammar.tokens, t.visible = true ∧ t.name = k) ∨
      k ∈ grammar.rules.map (·.1) ∧ (k.startsWith "_" || grammar.unseen.contains k) = false) :
    k ∈ nodeKinds := by
  rcases hk with ⟨t, ht, hvisible, rfl⟩ | ⟨hname, hseen⟩
  · exact mem_nodeKinds_iff.2 (.inr (.inl (Grammar.RuleSet.exists_terminal ht hvisible)))
  · exact mem_nodeKinds_iff.2 (.inl (Grammar.RuleSet.mem_kinds_compile hname hseen))

/-- **The tree of a source without mistakes** has names for kinds. -/
theorem nameable_parse (text : String) :
    (parse text).hasError = false → (parse text).Nameable := by
  rw [parse_eq]
  cases houtcome : automaton.parse (blankMark text.toList.toArray) with
  | ok piece =>
    intro _
    rw [treeOf]
    cases hhead : (piece.toTrees (blankMark text.toList.toArray)).head? with
    | none => exact ⟨isName_of_isPlainName (by decide +kernel), trivial⟩
    | some t =>
      exact Grammar.Piece.nameable_of_mem_toTrees (isName_of_parse houtcome) t
        (List.mem_of_head? hhead)
  | error mistake =>
    intro h
    cases mistake <;> cases h

/-- **A source has no mistakes** if and only if it can be read. -/
theorem hasError_parse_eq_false_iff {text : String} : (parse text).hasError = false ↔
    ∃ piece, automaton.parse (blankMark text.toList.toArray) = .ok piece := by
  rw [parse_eq]
  cases houtcome : automaton.parse (blankMark text.toList.toArray) with
  | ok piece =>
    simp only [treeOf, Except.ok.injEq, exists_eq', iff_true]
    cases hhead : (piece.toTrees (blankMark text.toList.toArray)).head? with
    | none => rfl
    | some t => exact Grammar.Piece.hasError_of_mem_toTrees t (List.mem_of_head? hhead)
  | error mistake => cases mistake <;> simp [treeOf, mistaken]

/-! ## The empty source -/

/-- A source can be empty, and nothing else in it. -/
lemma hasError_parse_empty : (parse "").hasError = false :=
  hasError_parse_eq_false_iff.2 (Grammar.RuleSet.exists_parse_empty plainGrammar.emptyFirst)

end Java

end JavaTree
