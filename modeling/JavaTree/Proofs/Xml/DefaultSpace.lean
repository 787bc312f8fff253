import JavaTree.Proofs.Xml.Accepted
import JavaTree.Proofs.Xml.Relayout

/-!
# Elements in the default namespaces around them

An element without prefix is in the default namespace that is declared around it, if it is written
in the document itself.  Only what a declared name stands for is read apart, without the namespaces
around it.

## Main definitions

* `Xml.settledLaw` — that elements are in the default namespaces around them, as a property that
  tokens of the document itself keep.
* `Xml.entitiesOf` — the names that a document declares for texts.

## Main results

* `Xml.settled_of_parse?` — the tree of a document that declares no names.
-/

namespace JavaTree.Xml

/-! ## Nodes in the namespaces around them -/

/-- A tag whose names have been resolved is in the default namespace, if it has no prefix. -/
lemma settled_of_resolveTag {around scope : Scope} {name : Written}
    {attributes : List (Written × String)} {tag : Tag}
    (h : resolveTag around name attributes = some (tag, scope)) : tag.settled around = tag := by
  obtain ⟨-, -, -, rfl, hresolved, -⟩ := resolveTag_eq_some_iff.1 h
  apply Tag.settled_eq_self
  unfold Tag.settled
  split
  · rename_i hlabel
    have hwritten := written_of_resolveName? hresolved
    have hname : name.label = "" := by
      rw [← hwritten]
      exact beq_iff_eq.1 hlabel
    rw [resolveName?_of_noLabel hname] at hresolved
    exact congrArg (fun n : Name => { tag.name with space := n.space }) (Option.some.inj hresolved)
  · rfl

namespace Node

/-- The text after a node has no part in the namespaces in it. -/
lemma settled_withTail (around : Scope) (n : Node) (t : Option String) :
    (n.withTail t).settled around = (n.settled around).withTail t :=
  remake_withTail around n t

/-- Nodes in a row are settled if each of them is. -/
lemma settledAll_eq_self_iff {around : Scope} {ns : List Node} :
    remakeAll Tag.settled id around ns = ns ↔ ∀ n ∈ ns, n.settled around = n := by
  induction ns with
  | nil => simp [remakeAll]
  | cons n ns ih => rw [remakeAll, List.cons.injEq, ih, List.forall_mem_cons, settled]

/-- An element is in the namespaces around it if its tag is, and the nodes in it are in those that
are in force there. -/
lemma settled_element {around : Scope} {tag : Tag} {ns : List Node}
    (htag : tag.settled around = tag) (hns : ∀ n ∈ ns, n.settled (tag.scope around) = n)
    (text tail : Option String) :
    (element tag text ns tail).settled around = element tag text ns tail := by
  cases ns with
  | nil => rw [settled, remake, htag, id]
  | cons n ns => rw [settled, remake, htag, settledAll_eq_self_iff.2 hns]

end Node

/-- Nodes are in the namespaces around them that are put together from tokens of the document
itself. -/
def settledLaw : NodeLaw where
  token := Token.Own
  chars _ := True
  tag around t := t.settled around = t
  node around n := n.settled around = n
  chars_nil := trivial
  chars_append _ _ := trivial
  chars_of_run _ := trivial
  chars_of_chars _ := trivial
  named_of_opening ht := ht.valid.1.ne_apart
  named_of_closing ht := ht.valid.ne_apart
  tag_of_opening _ h := settled_of_resolveTag h
  node_element ht _ hns := Node.settled_element ht hns _ _
  node_withTail hn _ := by rw [Node.settled_withTail, hn]
  node_comment _ := rfl
  node_instruction _ := rfl
  node_of_apart ht := ht.elim

/-! ## Documents that declare no names -/

/-- The names that a document declares for texts. -/
def entitiesOf (text : String) : Entities :=
  (((bodyOf? text).bind fun cs => readProlog (cs.length + 1) none cs).map (·.1.entities)).getD []

/-- **The elements of a document that declares no names** are in the namespaces around them. -/
theorem settled_of_parse? {text : String} {root : Node} (h : parse? text = some root)
    (hentities : entitiesOf text = []) : root.settled [] = root := by
  rw [parse?_eq_bind] at h
  obtain ⟨cs, hcs, h⟩ := Option.bind_eq_some_iff.1 h
  obtain ⟨d, rest, ts, hprolog, hd, hts, h⟩ := exists_tokens_of_readBody h
  rw [entitiesOf, hcs, Option.bind_some, hprolog, Option.map_some, Option.getD_some] at hentities
  rw [hentities] at hts
  have hown := forall_mem_presetTokens (fun _ ht => ht.presetToken hd) (own_of_tokens? hts)
  exact (settledLaw.holds_of_assemble? hown h).1

end JavaTree.Xml
