import Mathlib.Data.List.Permutation
import Mathlib.Data.Option.Basic
import JavaTree.Proofs.Xml.Assembly

/-!
# Accepted documents can be written again

The tree of every document that is accepted can be written so that it is accepted once more: its
names are names, its prefixes are declared where they are used, and its texts hold what documents
can hold.

## Main definitions

* `Xml.readableLaw` — that nodes can be written, as a property that tokens keep.
* `Xml.bodyOf?` — what stands after the declaration of a document.

## Main results

* `Xml.readable_of_resolveTag` — tags with resolved names can be written.
* `Xml.readable_of_parse?` — the tree of an accepted document can be written.
-/

namespace JavaTree.Xml

/-! ## More namespaces -/

section

variable {around : Scope} (more : Scope)

/-- A prefix that is declared stays so where more namespaces are in force. -/
lemma resolveName?_append {w : Written} {n : Name} (h : resolveName? around false w = some n) :
    resolveName? (around ++ more) false w = some n := by
  unfold resolveName? at h ⊢
  split
  · rename_i hw
    rwa [if_pos hw] at h
  · rename_i hw
    rw [if_neg hw] at h
    split
    · rename_i hxml
      rwa [if_pos hxml] at h
    · rename_i hxml
      rw [if_neg hxml] at h
      obtain ⟨uri, huri, hn⟩ := Option.map_eq_some_iff.1 h
      rw [List.lookup_append, huri, Option.some_or, Option.map_some, hn]

/-- A name that is resolved in a scope is resolved in every larger one. -/
lemma isSome_resolveName?_append {w : Written}
    (h : (resolveName? around true w).isSome = true) :
    (resolveName? (around ++ more) true w).isSome = true := by
  unfold resolveName? at h ⊢
  split
  · split <;> rfl
  · rename_i hw
    rw [if_neg hw] at h
    split
    · rfl
    · rename_i hxml
      rw [if_neg hxml, Option.isSome_map] at h
      rw [Option.isSome_map, List.lookup_append]
      obtain ⟨uri, huri⟩ := Option.isSome_iff_exists.1 h
      rw [huri]
      rfl

/-- The scope in a tag grows with the scope around it. -/
lemma Tag.scope_append (t : Tag) : t.scope (around ++ more) = t.scope around ++ more :=
  (List.append_assoc _ _ _).symm

/-- A tag that is readable in a scope is readable in every larger one. -/
lemma Tag.Readable.append {t : Tag} (h : t.Readable around) : t.Readable (around ++ more) where
  valid_name := h.valid_name
  valid_assignments := h.valid_assignments
  no_xml := h.no_xml
  may_declare := h.may_declare
  not_declared := h.not_declared
  distinct := h.distinct
  resolves_name := by
    rw [Tag.scope_append]
    exact isSome_resolveName?_append more h.resolves_name
  keeps_prefixed := fun hlabel => by
    rw [Tag.scope_append]
    exact resolveName?_append more (h.keeps_prefixed hlabel)
  resolves_attributes := fun a ha => by
    rw [Tag.scope_append]
    exact resolveName?_append more (h.resolves_attributes a ha)
  distinct_attributes := h.distinct_attributes

mutual

/-- What can be written and read back is so where more namespaces are in force. -/
lemma Node.Readable.append {around : Scope} (more : Scope) :
    ∀ {n : Node}, n.Readable around → n.Readable (around ++ more)
  | .element tag _ _ _, ⟨htag, htext, hchildren, htail⟩ => by
    refine ⟨htag.append more, htext, ?_, htail⟩
    rw [Tag.scope_append]
    exact Node.AllReadable.append more hchildren
  | .comment _ _, h => h
  | .instruction _ _ _, h => h

/-- Nodes in a row that are readable in a scope are readable in every larger one. -/
lemma Node.AllReadable.append {around : Scope} (more : Scope) :
    ∀ {ns : List Node}, Node.AllReadable around ns → Node.AllReadable (around ++ more) ns
  | [], _ => trivial
  | _ :: _, ⟨hn, hns⟩ => ⟨hn.append more, hns.append more⟩

end

/-- Nodes in a row are readable if each of them is. -/
lemma Node.allReadable_iff {ns : List Node} :
    Node.AllReadable around ns ↔ ∀ n ∈ ns, n.Readable around := by
  induction ns with
  | nil => simp [Node.AllReadable]
  | cons n ns ih => simp [Node.AllReadable, ih]

end

/-! ## Tags with resolved names -/

/-- The check that all are distinct finds out whether there are duplicates. -/
lemma allDistinct_iff_nodup {α : Type} [BEq α] [LawfulBEq α] {as : List α} :
    allDistinct as = true ↔ as.Nodup := by
  induction as with
  | nil => simp [allDistinct]
  | cons a as ih => simp [allDistinct, ih]

/-- A name that declares a prefix is the one in the declaration of it. -/
lemma declaration_of_declared? {w : Written} {label : String} (hw : w.Valid)
    (h : declared? w = some label) : declaration label = w := by
  obtain ⟨l, p⟩ := w
  unfold declared? at h
  split at h
  · rename_i hempty
    obtain ⟨rfl, rfl⟩ : l = "" ∧ p = "xmlns" := by simpa using hempty
    cases h
    rfl
  · split at h
    · rename_i hxmlns
      obtain rfl : l = "xmlns" := by simpa using hxmlns
      cases h
      exact if_neg hw.2.ne_empty
    · cases h

section

variable {attributes : List (Written × String)}

/-- The declarations of a tag, written again, are among the attributes that they were read from. -/
lemma map_declarations (hvalid : ∀ a ∈ attributes, ValidAttribute a) :
    (declarations attributes).map (fun d => (declaration d.1, d.2)) =
      attributes.filter fun a => (declared? a.1).isSome := by
  unfold declarations
  induction attributes with
  | nil => rfl
  | cons a as ih =>
    have has := ih fun b hb => hvalid b (List.mem_cons_of_mem _ hb)
    cases hn : declared? a.1 with
    | none => simpa [hn] using has
    | some label =>
      have hlabel := declaration_of_declared? (hvalid _ List.mem_cons_self).1 hn
      simpa [hn, hlabel] using has

/-- Attributes with resolved names are written as those that they were read from.

**Proof sketch.** Induction on the attributes: a name is resolved to one that is written as it was.
-/
lemma map_of_resolveAll? {scope : Scope} {resolved : List Attribute}
    (h : resolveAll? scope attributes = some resolved) :
    resolved.map (fun a => (⟨a.name.label, a.name.part⟩, a.value)) = attributes ∧
      ∀ a ∈ resolved, resolveName? scope false ⟨a.name.label, a.name.part⟩ = some a.name := by
  unfold resolveAll? at h
  induction attributes generalizing resolved with
  | nil =>
    cases h
    exact ⟨rfl, fun a ha => by cases ha⟩
  | cons a as ih =>
    rw [List.mapM_cons] at h
    simp only [Option.bind_eq_bind, Option.bind_eq_some_iff] at h
    obtain ⟨b, hb, bs, hbs, he⟩ := h
    cases he
    obtain ⟨r, hr, rfl⟩ := Option.map_eq_some_iff.1 hb
    have hwritten := written_of_resolveName? hr
    obtain ⟨hmap, hall⟩ := ih hbs
    refine ⟨by rw [List.map_cons, hmap, hwritten], fun c hc => ?_⟩
    rcases List.mem_cons.1 hc with rfl | hc
    · rw [hwritten]
      exact hr
    · exact hall c hc

/-- Attributes that are distinct stay so if those that declare namespaces are put first, and some of
these are left out. -/
lemma nodup_reordered {kept : List (Written × String)}
    (hkept : kept.Sublist (attributes.filter fun a => (declared? a.1).isSome))
    (h : (attributes.map fun a => (a.1.label, a.1.part)).Nodup) :
    ((kept ++ ordinary attributes).map fun a => (a.1.label, a.1.part)).Nodup := by
  have hordinary : ordinary attributes = attributes.filter fun a => !(declared? a.1).isSome := by
    simp [ordinary]
  have hperm : ((attributes.filter fun a => (declared? a.1).isSome) ++ ordinary attributes).Perm
      attributes := by
    rw [hordinary]
    exact List.filter_append_perm (fun a : Written × String => (declared? a.1).isSome) attributes
  have hsub := (hkept.append_right (ordinary attributes)).map
    fun a : Written × String => (a.1.label, a.1.part)
  exact ((hperm.map _).nodup_iff.2 h).sublist hsub

end

/-- **Tags with resolved names can be written**, and the names are resolved as before.

**Proof sketch.** The attributes of the tag are those that were read, in another order: first the
declarations of namespaces, but for those of the prefix `xml`, and then the others. -/
theorem readable_of_resolveTag {around scope : Scope} {name : Written}
    {attributes : List (Written × String)} {tag : Tag} (hname : name.Valid)
    (hvalid : ∀ a ∈ attributes, ValidAttribute a)
    (h : resolveTag around name attributes = some (tag, scope)) :
    tag.Readable around ∧ tag.writtenName = name ∧ scope = tag.scope around := by
  obtain ⟨hmay, hdistinct, hspaces, rfl, hresolved, hfound, hdistinct'⟩ :=
    resolveTag_eq_some_iff.1 h
  have hwritten : tag.writtenName = name := written_of_resolveName? hresolved
  obtain ⟨hordinary, hattributes⟩ := map_of_resolveAll? hfound
  have hkept : (tag.spaces.map fun d => (declaration d.1, d.2)).Sublist
      (attributes.filter fun a => (declared? a.1).isSome) := by
    rw [hspaces, ← map_declarations hvalid]
    exact List.filter_sublist.map _
  have hassignments : tag.assignments =
      (tag.spaces.map fun d => (declaration d.1, d.2)) ++ ordinary attributes := by
    rw [Tag.assignments, hordinary]
  refine ⟨{
    valid_name := hwritten ▸ hname
    valid_assignments := fun a ha => ?_
    no_xml := fun d hd => ?_
    may_declare := fun d hd => ?_
    not_declared := fun a ha => ?_
    distinct := ?_
    resolves_name := ?_
    keeps_prefixed := fun hlabel => ?_
    resolves_attributes := hattributes
    distinct_attributes := hdistinct' }, hwritten, rfl⟩
  · rw [hassignments] at ha
    rcases List.mem_append.1 ha with ha | ha
    · exact hvalid a (List.mem_filter.1 (hkept.subset ha)).1
    · exact hvalid a (List.mem_filter.1 ha).1
  · rw [hspaces] at hd
    simpa using (List.mem_filter.1 hd).2
  · rw [hspaces] at hd
    exact hmay d (List.mem_filter.1 hd).1
  · have hmem : ((⟨a.name.label, a.name.part⟩, a.value) : Written × String) ∈
        ordinary attributes := by
      rw [← hordinary]
      exact List.mem_map_of_mem ha
    simpa using (List.mem_filter.1 hmem).2
  · rw [hassignments, allDistinct_iff_nodup]
    exact nodup_reordered hkept (allDistinct_iff_nodup.1 hdistinct)
  · rw [hwritten, hresolved]
    rfl
  · rw [← resolveName?_of_label hlabel _ true, hwritten, hresolved]

/-! ## Nodes that can be written -/

/-- A node can be written with another text after it, if that can be written. -/
lemma Node.Readable.withTail {around : Scope} {n : Node} (h : n.Readable around)
    {tail : Option String} (ht : ValidText tail) : (n.withTail tail).Readable around := by
  cases n with
  | element tag text children _ => exact ⟨h.1, h.2.1, h.2.2.1, ht⟩
  | comment text _ => exact ⟨h.1, ht⟩
  | instruction target text _ => exact ⟨h.1, h.2.1, ht⟩

/-- An absent text can be written. -/
lemma validText_none : ValidText none := fun c hc => by simp at hc

/-- A text and characters after it can be written, if both can be. -/
lemma validText_joinText {t : Option String} {cs : List Char} (ht : ValidText t)
    (hcs : AllChars cs) : ValidText (joinText t cs) := by
  intro c hc
  rw [joinText, Option.getD_some, String.toList_append, String.toList_ofList,
    List.mem_append] at hc
  rcases hc with hc | hc
  · exact ht c hc
  · exact hcs c hc

/-- What a declared name stands for has no name of its own. -/
lemma Written.Valid.ne_apart {w : Written} (h : w.Valid) : w ≠ Frame.apart.written := by
  rintro rfl
  exact absurd rfl h.2.ne_empty

/-- Nodes can be written that are put together from tokens that can be written. -/
def readableLaw : NodeLaw where
  token := Token.Valid
  chars := AllChars
  tag around t := t.Readable around
  node around n := n.Readable around
  chars_nil := .nil
  chars_append := .append
  chars_of_run := id
  chars_of_chars := id
  named_of_opening ht := ht.1.ne_apart
  named_of_closing ht := ht.ne_apart
  tag_of_opening ht h := (readable_of_resolveTag ht.1 ht.2 h).1
  node_element ht htext hns := ⟨ht, htext, Node.allReadable_iff.2 hns, validText_none⟩
  node_withTail hn hcs := hn.withTail (validText_joinText hn.validText_tail hcs)
  node_comment ht := ⟨ht, validText_none⟩
  node_instruction ht := ⟨ht.1, ht.2, validText_none⟩
  -- a declared name is read where nothing is declared, so that more namespaces do not matter
  node_of_apart _ hn := hn.append _

/-! ## Documents -/

/-- What stands after the declaration of a document is read in three steps: what stands before the
root, the tokens of the root, and the tree of these. -/
lemma exists_tokens_of_readBody {cs : List Char} {n : Node} (h : readBody cs = some n) :
    ∃ d rest ts, readProlog (cs.length + 1) none cs = some (d, rest) ∧ d.Valid ∧
      tokens? d.entities rest = some ts ∧
      assemble? d.contents (presetTokens d.attributes ts) = some n := by
  simp only [readBody, Option.bind_eq_bind, Option.bind_eq_some_iff] at h
  obtain ⟨⟨d, rest⟩, hprolog, ts, hts, h⟩ := h
  have hd : d.Valid := valid_of_readProlog _ _ _ _ _ (fun e he => by cases he) hprolog
  exact ⟨d, rest, ts, hprolog, hd, hts, h⟩

/-- The characters of a document after the declaration of its version, in its encoding. -/
def bodyOf? (text : String) : Option (List Char) :=
  match text.toList with
  | '\uFEFF' :: cs => (readDeclared cs).map (·.2)
  | cs => do
    let (d, _) ← readDeclared cs
    let cs ← recode text d
    (readDeclared cs).map (·.2)

/-- The tree of a document is that of its characters after the declaration. -/
lemma parse?_eq_bind (text : String) : parse? text = (bodyOf? text).bind readBody := by
  unfold parse? bodyOf?
  cases text.toList with
  | nil => simp [Option.bind_assoc, Option.bind_map]
  | cons c cs =>
    by_cases hmark : c = '\uFEFF'
    · simp [hmark, Option.bind_map]
    · simp [hmark, Option.bind_assoc, Option.bind_map]

/-- **The tree of an accepted document can be written**, and is accepted again. -/
theorem readable_of_parse? {text : String} {n : Node} (h : parse? text = some n) :
    n.Readable [] ∧ n.isElement = true ∧ n.tail = none := by
  rw [parse?_eq_bind] at h
  obtain ⟨cs, -, h⟩ := Option.bind_eq_some_iff.1 h
  obtain ⟨d, rest, ts, -, hd, hts, h⟩ := exists_tokens_of_readBody h
  refine readableLaw.holds_of_assemble? ?_ h
  exact forall_mem_presetTokens (fun _ ht => ht.presetToken hd) (valid_of_tokens? hts)

end JavaTree.Xml
