import Mathlib.Data.List.Induction
import JavaTree.Proofs.Grammar.Pieces

/-!
# The kinds of nodes

Every node of a reading has a kind that the grammar gives: the name of a token class, the name of a
rule, or a name that a rule gives to a part of it.

## Main definitions

* `Piece.kinds` — the kinds of all nodes in a piece.
* `Automaton.Gives` — an automaton all of whose kinds have a property.
* `RuleSet.kinds` — the kinds that a grammar mentions.

## Main results

* `Automaton.Gives.keeps` — finishing productions gives no kinds but those of the automaton.
* `RuleSet.gives_compile` — the kinds of a compiled grammar are those that the grammar mentions.
* `RuleSet.mem_kinds_of_parse` — so are the kinds of all nodes of a reading.
-/

namespace JavaTree.Grammar

variable {P : String → Prop}

/-! ## Pieces -/

namespace Piece

mutual

/-- The kinds of all nodes in a piece. -/
def kinds : Piece → List String
  | token _ kind _ _ _ => kind.toList
  | branch _ kind parts _ _ _ => kind.toList ++ allKinds parts

/-- The kinds of all nodes in a list of pieces. -/
def allKinds : List Piece → List String
  | [] => []
  | p :: ps => kinds p ++ allKinds ps

end

variable {k : String} {p : Piece} {ps : List Piece}

/-- A kind occurs in pieces if it occurs in one of them. -/
lemma mem_allKinds : k ∈ allKinds ps ↔ ∃ p ∈ ps, k ∈ p.kinds := by
  induction ps with
  | nil => simp [allKinds]
  | cons p ps ih => simp [allKinds, ih]

/-- A piece that is given a kind has no other new kind.

**Proof sketch.** By the kind that is given, and by the piece. -/
lemma mem_kinds_withKind {kind : Option String} (h : k ∈ (p.withKind kind).kinds) :
    kind = some k ∨ k ∈ p.kinds := by
  cases kind with
  | none => exact .inr h
  | some j =>
    cases p with
    | token s kind i e c =>
      rw [withKind, kinds] at h
      obtain rfl := List.mem_singleton.1 h
      exact .inl rfl
    | branch s kind parts i e w =>
      rw [withKind, kinds] at h
      rcases List.mem_append.1 h with h | h
      · obtain rfl := List.mem_singleton.1 h
        exact .inl rfl
      · refine .inr ?_
        rw [kinds]
        exact List.mem_append_right _ h

end Piece

/-! ## Automata -/

/-- All kinds that an automaton gives to nodes have a property. -/
structure Automaton.Gives (P : String → Prop) (a : Automaton) : Prop where
  rules : ∀ k, some k ∈ a.kinds → P k
  steps : ∀ p ∈ a.productions, ∀ t ∈ p.steps, ∀ k, t.kind = some k → P k
  tokens : ∀ c ∈ a.terminals, c.visible = true → P c.name

namespace Automaton

variable {a : Automaton}

/-- The kind that a production gives to a place in it. -/
lemma Gives.step (h : a.Gives P) (production i : Nat) : ∀ k,
    (((a.productions.getD production default).steps[i]?).bind (·.kind)) = some k → P k := by
  have hsteps := forall_getD h.steps (a := default) (fun t ht => absurd ht (Array.not_mem_empty t))
    production
  intro k hk
  obtain ⟨t, ht, hk⟩ := Option.bind_eq_some_iff.1 hk
  exact hsteps t (Array.mem_of_getElem? ht) k hk

/-- The kinds in a leaf are kinds that the automaton gives. -/
lemma Gives.leaf (h : a.Gives P) (t : Token) : ∀ k ∈ (a.leaf t).kinds, P k := by
  have htoken := forall_getD h.tokens (a := default) (fun hvisible => by cases hvisible) t.terminal
  intro k hk
  rw [Automaton.leaf, Piece.kinds, Option.mem_toList] at hk
  obtain ⟨hvisible, hk⟩ := Option.ite_none_right_eq_some.1 hk
  obtain rfl := Option.some.inj hk
  exact htoken hvisible

/-- The parts of a finished production have the kinds that they had, or that their places give
them.

**Proof sketch.** The piece has the kind of its rule. Its parts are gone through one after the
other, and each keeps its kinds or is given that of its place. -/
lemma Gives.finish (h : a.Gives P) (production : Nat) {parts : List Piece} (position : Nat)
    (hparts : ∀ p ∈ parts, ∀ k ∈ p.kinds, P k) :
    ∀ k ∈ (a.finish production parts position).kinds, P k := by
  have hrules : ∀ kind ∈ a.kinds, ∀ k, kind = some k → P k := by
    rintro kind hkind k rfl
    exact h.rules k hkind
  have hrule := forall_getD hrules (a := none) (fun k hk => by cases hk)
    (a.productions.getD production default).owner
  unfold Automaton.finish
  simp only
  rw [Piece.kinds]
  refine List.forall_mem_append.2 ⟨fun k hk => hrule k (Option.mem_toList.1 hk), fun k hk => ?_⟩
  obtain ⟨p, hp, hk⟩ := Piece.mem_allKinds.1 hk
  refine List.foldlRecOn (motive := fun (x : List Piece × Nat) => ∀ p ∈ x.1, ∀ k ∈ p.kinds, P k)
    parts _ (fun p hp => by cases hp) ?_ p (List.mem_reverse.1 hp) k hk
  intro x hx part hpart
  split
  · exact List.forall_mem_cons.2 ⟨hparts part hpart, hx⟩
  · refine List.forall_mem_cons.2 ⟨fun k hk => ?_, hx⟩
    rcases Piece.mem_kinds_withKind hk with hkind | hk
    · exact h.step production _ k hkind
    · exact hparts part hpart k hk

/-- Productions keep that all kinds have a property. -/
theorem Gives.keeps (h : a.Gives P) : a.Keeps fun p => ∀ k ∈ p.kinds, P k where
  leaf := h.leaf
  finish production parts position hparts := h.finish production position hparts
  parts hp p hmem k hk := by
    refine hp k ?_
    rw [Piece.kinds]
    exact List.mem_append_right _ (Piece.mem_allKinds.2 ⟨p, hmem, hk⟩)
  regroup hp qs i j hqs k hk := by
    rw [Piece.kinds] at hk
    rcases List.mem_append.1 hk with hk | hk
    · refine hp k ?_
      rw [Piece.kinds]
      exact List.mem_append_left _ hk
    · obtain ⟨q, hq, hk⟩ := Piece.mem_allKinds.1 hk
      exact hqs q hq k hk

end Automaton

/-! ## Rules -/

namespace Rule

/-- The kinds that a rule gives to parts of it. -/
def kinds : Rule → List String
  | seq a b => a.kinds ++ b.kinds
  | alt a b => a.kinds ++ b.kinds
  | many1 a => a.kinds
  | prec _ _ a => a.kinds
  | weight _ a => a.kinds
  | named k a => k :: a.kinds
  | _ => []

variable {r : Rule} {bodies : Array Rule}

/-- Lifting repetitions out of a rule gives no new kinds.

**Proof sketch.** Induction on the rule. What is lifted out of a repetition is its body, whose kinds
are those of the rule. -/
lemma kinds_liftRepeats (hr : ∀ k ∈ r.kinds, P k) (hbodies : ∀ b ∈ bodies, ∀ k ∈ b.kinds, P k) :
    (∀ k ∈ (r.liftRepeats bodies).1.kinds, P k) ∧
      ∀ b ∈ (r.liftRepeats bodies).2, ∀ k ∈ b.kinds, P k := by
  induction r generalizing bodies with
  | blank | lit | ref | repeated => exact ⟨hr, hbodies⟩
  | seq a b iha ihb | alt a b iha ihb =>
    obtain ⟨ha, hb⟩ := List.forall_mem_append.1 hr
    obtain ⟨hlifted, hfirst⟩ := iha ha hbodies
    obtain ⟨hlifted', hsecond⟩ := ihb hb hfirst
    exact ⟨List.forall_mem_append.2 ⟨hlifted, hlifted'⟩, hsecond⟩
  | many1 a iha =>
    obtain ⟨hlifted, hfirst⟩ := iha hr hbodies
    rw [liftRepeats]
    simp only
    split
    · exact ⟨fun k hk => (by cases hk), hfirst⟩
    · refine ⟨fun k hk => (by cases hk), fun b hb => ?_⟩
      rcases Array.mem_push.1 hb with hb | rfl
      · exact hfirst b hb
      · exact hlifted
  | prec _ _ a iha | weight _ a iha => exact iha hr hbodies
  | named k a iha =>
    obtain ⟨hk, ha⟩ := List.forall_mem_cons.1 hr
    obtain ⟨hlifted, hfirst⟩ := iha ha hbodies
    exact ⟨List.forall_mem_cons.2 ⟨hk, hlifted⟩, hfirst⟩

/-- The readings of a rule give no new kinds.

**Proof sketch.** Induction on the rule: the readings of a sequence are made of readings of its
parts. -/
lemma kinds_alternatives (hr : ∀ k ∈ r.kinds, P k) : ∀ x ∈ r.alternatives, ∀ k ∈ x.kinds, P k := by
  induction r with
  | blank | lit | ref | repeated | many1 =>
    intro x hx
    obtain rfl := List.mem_singleton.1 hx
    exact hr
  | seq a b iha ihb =>
    obtain ⟨ha, hb⟩ := List.forall_mem_append.1 hr
    intro x hx
    obtain ⟨y, hy, hx⟩ := List.mem_flatMap.1 hx
    obtain ⟨z, hz, rfl⟩ := List.mem_map.1 hx
    exact List.forall_mem_append.2 ⟨iha ha y hy, ihb hb z hz⟩
  | alt a b iha ihb =>
    obtain ⟨ha, hb⟩ := List.forall_mem_append.1 hr
    exact List.forall_mem_append.2 ⟨iha ha, ihb hb⟩
  | prec _ _ a iha | weight _ a iha =>
    intro x hx
    obtain ⟨y, hy, rfl⟩ := List.mem_map.1 hx
    exact iha hr y hy
  | named k a iha =>
    obtain ⟨hk, ha⟩ := List.forall_mem_cons.1 hr
    intro x hx
    obtain ⟨y, hy, rfl⟩ := List.mem_map.1 hx
    exact List.forall_mem_cons.2 ⟨hk, iha ha y hy⟩

end Rule

/-- What holds of all elements holds after the last one is changed, if the change keeps it. -/
lemma forall_mem_modifyLast {α : Type} {p : α → Prop} {f : α → α} (hf : ∀ a, p a → p (f a))
    {as : List α} (has : ∀ a ∈ as, p a) : ∀ a ∈ modifyLast f as, p a := by
  induction as with
  | nil => exact has
  | cons a as ih =>
    obtain ⟨ha, has⟩ := List.forall_mem_cons.1 has
    cases as with
    | nil => exact List.forall_mem_cons.2 ⟨hf a ha, List.forall_mem_nil _⟩
    | cons b bs => exact List.forall_mem_cons.2 ⟨ha, ih has⟩

namespace Rule

variable {r : Rule}

/-- The steps of a rule carry the kind of the place where it stands, or kinds that it gives.

**Proof sketch.** Induction on the rule, with the kind of the place carried along; a name changes it
to a kind that the rule gives. -/
lemma kinds_steps {level : Int} {assoc : Option Assoc} {kind : Option String} {atEnd : Bool}
    (hr : ∀ k ∈ r.kinds, P k) (hkind : ∀ k, kind = some k → P k) :
    ∀ t ∈ r.steps level assoc kind atEnd, ∀ k, t.kind = some k → P k := by
  induction r generalizing level assoc kind atEnd with
  | blank | alt | many1 =>
    intro t ht
    cases ht
  | lit | ref | repeated =>
    intro t ht
    obtain rfl := List.mem_singleton.1 ht
    exact hkind
  | seq a b iha ihb =>
    obtain ⟨ha, hb⟩ := List.forall_mem_append.1 hr
    exact List.forall_mem_append.2 ⟨iha ha hkind, ihb hb hkind⟩
  | prec n s a iha =>
    unfold steps
    split
    · exact iha hr hkind
    · refine forall_mem_modifyLast ?_ (iha hr hkind)
      exact fun t ht => ht
  | weight _ a iha => exact iha hr hkind
  | named k a iha =>
    obtain ⟨hk, ha⟩ := List.forall_mem_cons.1 hr
    refine iha ha fun j hj => ?_
    obtain rfl := Option.some.inj hj
    exact hk

/-- The right-hand sides of a rule carry kinds that it gives. -/
lemma kinds_sequences (hr : ∀ k ∈ r.kinds, P k) :
    ∀ s ∈ r.sequences, ∀ t ∈ s.steps, ∀ k, t.kind = some k → P k := by
  intro s hs
  obtain ⟨x, hx, rfl⟩ := List.mem_map.1 hs
  exact kinds_steps (kinds_alternatives hr x hx) fun k hk => by cases hk

end Rule

/-! ## Grammars -/

/-- Repetitions are lifted out of rules one rule after the other. -/
lemma flattenRepeats_concat (rules : List (String × Rule)) (r : String × Rule) :
    flattenRepeats (rules ++ [r]) =
      ((flattenRepeats rules).1 ++ [(r.1, (r.2.liftRepeats (flattenRepeats rules).2).1)],
        (r.2.liftRepeats (flattenRepeats rules).2).2) := by
  rw [flattenRepeats, List.foldl_append]
  rfl

/-- Lifting repetitions out of all rules keeps their names and gives no new kinds. -/
lemma flattenRepeats_kinds {rules : List (String × Rule)}
    (h : ∀ r ∈ rules, ∀ k ∈ r.2.kinds, P k) :
    (flattenRepeats rules).1.map (·.1) = rules.map (·.1) ∧
      (∀ r ∈ (flattenRepeats rules).1, ∀ k ∈ r.2.kinds, P k) ∧
      ∀ b ∈ (flattenRepeats rules).2, ∀ k ∈ b.kinds, P k := by
  induction rules using List.reverseRecOn with
  | nil => exact ⟨rfl, h, fun b hb => absurd hb (Array.not_mem_empty b)⟩
  | append_singleton rules r ih =>
    obtain ⟨hrules, hr⟩ := List.forall_mem_append.1 h
    obtain ⟨hnames, hdone, hbodies⟩ := ih hrules
    obtain ⟨hlifted, hmore⟩ := Rule.kinds_liftRepeats (hr r (List.mem_singleton_self r)) hbodies
    rw [flattenRepeats_concat]
    refine ⟨?_, ?_, hmore⟩
    · rw [List.map_append, List.map_append, hnames]
      rfl
    · refine List.forall_mem_append.2 ⟨hdone, fun x hx => ?_⟩
      obtain rfl := List.mem_singleton.1 hx
      exact hlifted

namespace RuleSet

variable {g : RuleSet}

/-- The kinds that a grammar mentions. -/
def kinds (g : RuleSet) : List String :=
  (g.tokens.filter (·.visible)).map (·.name) ++
    ((g.rules.map (·.1)).filter fun name => !(name.startsWith "_" || g.unseen.contains name)) ++
    g.rules.flatMap (·.2.kinds)

/-- The kinds of a grammar are its visible tokens, its visible rules and the kinds that its rules
name. -/
lemma mem_kinds {k : String} : k ∈ g.kinds ↔
    (∃ t ∈ g.tokens, t.visible = true ∧ t.name = k) ∨
      (k ∈ g.rules.map (·.1) ∧ (k.startsWith "_" || g.unseen.contains k) = false) ∨
      ∃ r ∈ g.rules, k ∈ r.2.kinds := by
  simp only [kinds, List.mem_append, List.mem_map, List.mem_filter, List.mem_flatMap, or_assoc,
    and_assoc, Bool.not_eq_true']

/-- Rules whose repetitions are lifted out name no new kinds. -/
lemma mem_kinds_of_flattenRepeats :
    (flattenRepeats g.rules).1.map (·.1) = g.rules.map (·.1) ∧
      (∀ r ∈ (flattenRepeats g.rules).1, ∀ k ∈ r.2.kinds, k ∈ g.kinds) ∧
      ∀ b ∈ (flattenRepeats g.rules).2, ∀ k ∈ b.kinds, k ∈ g.kinds :=
  flattenRepeats_kinds fun r hr _ hk => mem_kinds.2 (.inr (.inr ⟨r, hr, hk⟩))

/-- Only rules that are seen give their name to nodes. -/
lemma mem_kinds_of_rule {k : String} (hk : some k ∈ g.compile.kinds) : k ∈ g.kinds := by
  rcases List.mem_append.1 (List.mem_toArray.1 hk) with hk | hk
  · rcases List.mem_cons.1 hk with hk | hk
    · cases hk
    · obtain ⟨r, hr, hk⟩ := List.mem_map.1 hk
      obtain ⟨hseen, hk⟩ := Option.ite_none_left_eq_some.1 hk
      obtain rfl := Option.some.inj hk
      refine mem_kinds.2 (.inr (.inl ⟨?_, Bool.eq_false_iff.2 hseen⟩))
      rw [← mem_kinds_of_flattenRepeats.1]
      exact List.mem_map_of_mem hr
  · obtain ⟨ss, -, hk⟩ := List.mem_map.1 hk
    cases hk

/-- Only visible token classes give their name to nodes. -/
lemma mem_kinds_of_terminal {c : Terminal} (hc : c ∈ g.compile.terminals)
    (hvisible : c.visible = true) : c.name ∈ g.kinds := by
  rcases List.mem_append.1 (List.mem_toArray.1 hc) with hc | hc
  · rcases List.mem_cons.1 hc with rfl | hc
    · cases hvisible
    · obtain ⟨t, ht, rfl⟩ := List.mem_map.1 hc
      exact mem_kinds.2 (.inl ⟨t, ht, hvisible, rfl⟩)
  · obtain ⟨t, -, rfl⟩ := List.mem_map.1 hc
    cases hvisible

/-- The kinds of places in productions are those that rules give to parts of them.

**Proof sketch.** A production comes from the start, a rule or a repetition, and
`Rule.kinds_sequences` holds of each of them. -/
lemma mem_kinds_of_step {p : Production} (hp : p ∈ g.compile.productions) {t : Step Nat}
    (ht : t ∈ p.steps) {k : String} (hk : t.kind = some k) : k ∈ g.kinds := by
  obtain ⟨-, hrules, hbodies⟩ := mem_kinds_of_flattenRepeats (g := g)
  have hrules' : ∀ ss ∈ (flattenRepeats g.rules).1.map fun r => r.2.sequences,
      ∀ s ∈ ss, ∀ t ∈ s.steps, ∀ k, t.kind = some k → k ∈ g.kinds := by
    intro ss hss
    obtain ⟨r, hr, rfl⟩ := List.mem_map.1 hss
    exact Rule.kinds_sequences (hrules r hr)
  have hrepeats : ∀ ss ∈ (flattenRepeats g.rules).2.toList.mapIdx fun i body =>
      (Rule.alt (.seq (.repeated i) body) body).sequences,
      ∀ s ∈ ss, ∀ t ∈ s.steps, ∀ k, t.kind = some k → k ∈ g.kinds := by
    intro ss hss
    obtain ⟨i, hi, rfl⟩ := List.mem_mapIdx.1 hss
    have hbody := hbodies _ (Array.mem_toList_iff.1 (List.getElem_mem hi))
    exact Rule.kinds_sequences (List.forall_mem_append.2 ⟨hbody, hbody⟩)
  have hstart : ∀ s ∈ (Rule.ref ((g.rules.head?.map (·.1)).getD "")).sequences,
      ∀ t ∈ s.steps, ∀ k, t.kind = some k → k ∈ g.kinds :=
    Rule.kinds_sequences (List.forall_mem_nil _)
  obtain ⟨ps, hps, hp⟩ := List.mem_flatten.1 (List.mem_toArray.1 hp)
  obtain ⟨owner, howner, rfl⟩ := List.mem_mapIdx.1 hps
  obtain ⟨s, hs, rfl⟩ := List.mem_map.1 hp
  obtain ⟨u, hu, rfl⟩ := List.mem_map.1 (List.mem_toArray.1 ht)
  have hall := List.forall_mem_append.2 ⟨List.forall_mem_cons.2 ⟨hstart, hrules'⟩, hrepeats⟩
  exact hall _ (List.getElem_mem howner) s hs u hu k hk

/-- Every rule that is seen gives its name to nodes. -/
lemma mem_kinds_compile {k : String} (hk : k ∈ g.rules.map (·.1))
    (hseen : (k.startsWith "_" || g.unseen.contains k) = false) : some k ∈ g.compile.kinds := by
  rw [← mem_kinds_of_flattenRepeats.1] at hk
  obtain ⟨r, hr, rfl⟩ := List.mem_map.1 hk
  refine List.mem_toArray.2 (List.mem_append_left _ (List.mem_cons_of_mem _ ?_))
  exact List.mem_map.2 ⟨r, hr, if_neg (by rw [hseen]; exact Bool.false_ne_true)⟩

/-- Every visible token class is a visible terminal. -/
lemma exists_terminal {t : TokenClass} (ht : t ∈ g.tokens) (hvisible : t.visible = true) :
    ∃ c ∈ g.compile.terminals, c.visible = true ∧ c.name = t.name :=
  ⟨_, List.mem_toArray.2 (List.mem_append_left _ (List.mem_cons_of_mem _
    (List.mem_map_of_mem ht))), hvisible, rfl⟩

/-- **The kinds of a compiled grammar** are those that the grammar mentions. -/
theorem gives_compile (g : RuleSet) : g.compile.Gives (· ∈ g.kinds) where
  rules _ hk := mem_kinds_of_rule hk
  steps _ hp _ ht _ hk := mem_kinds_of_step hp ht hk
  tokens _ hc hvisible := mem_kinds_of_terminal hc hvisible

/-- **Every node of a reading** has a kind that the grammar mentions. -/
theorem mem_kinds_of_parse {source : Array Char} {piece : Piece}
    (h : g.compile.parse source = .ok piece) : ∀ k ∈ piece.kinds, k ∈ g.kinds :=
  Automaton.holds_of_parse g.gives_compile.keeps h

end RuleSet

end JavaTree.Grammar
