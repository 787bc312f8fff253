import JavaTree.Extraction
import JavaTree.Proofs.Syntax.Build
import JavaTree.Proofs.Text.Quoted
import JavaTree.Proofs.Xml.Layout

/-!
# Syntax trees as documents

The element of a syntax tree can be written, is accepted, laid out, and read again, and holds what
it held before: no text of an element is lost or changed on the way, whatever its characters are.

## Main definitions

* `SyntaxTree.Nameable` — the kinds of all nodes that can be shown are names.
* `Xml.SameElement` — elements with the same names and texts.

## Main results

* `SyntaxTree.readable_toElement` — the element of a syntax tree can be written.
* `showTree_xml_readable` — a syntax tree in XML can be read back.
-/

namespace JavaTree

namespace Xml

/-! ## Spelled texts -/

/-- A document holds all characters of a spelling. -/
lemma allChars_spelling (c : Char) : AllChars (spelling c) := by
  rw [← legibleChar_eq_spelling]
  unfold legibleChar
  split
  · rename_i hc
    exact .singleton hc
  · have hdigits : AllChars (hexDigits 4 c.toNat) := forall_mem_hexDigits (by decide) 4 c.toNat
    exact AllChars.cons (by decide) (AllChars.cons (by decide) hdigits)

/-- **Every text can be shown in a document** once it is spelled. -/
lemma validText_spelled (s : String) : ValidText (some (spelled s)) := by
  intro c hc
  rw [Option.getD_some, spelled, String.toList_ofList] at hc
  obtain ⟨d, -, hd⟩ := List.mem_flatMap.1 hc
  exact allChars_spelling d c hd

/-! ## Names -/

/-- A name without prefix, attributes and namespaces can be written as a tag, and is read as it was
where no namespaces are in force. -/
lemma Tag.readable_plain {name : String} (h : IsName name) :
    (⟨{ part := name }, [], []⟩ : Tag).Readable [] where
  valid_name := ⟨.inl rfl, h⟩
  valid_assignments := fun a ha => by cases ha
  no_xml := fun d hd => by cases hd
  may_declare := fun d hd => by cases hd
  not_declared := fun a ha => by cases ha
  distinct := rfl
  resolves_name := rfl
  keeps_prefixed := fun h => absurd rfl h
  resolves_attributes := fun a ha => by cases ha
  distinct_attributes := rfl

/-! ## The same elements -/

/-- The tag and the text of the element at a place, if there are no nodes in it; an absent text
counts as the empty one. -/
def Node.leafAt? (n : Node) (place : Place) : Option (Tag × String) :=
  (n.at? place).bind fun
    | .element tag text [] _ => some (tag, text.getD "")
    | _ => none

mutual

/-- Elements without attributes and namespaces that have the same names, hold the same elements in
the same order, and, where they hold none, the same texts; an absent text counts as the empty one.
-/
inductive SameElement : Node → Node → Prop
  | element {name : String} {text text' tail tail' : Option String} {ns ms : List Node}
      (htext : ns = [] → text'.getD "" = text.getD "") (hall : SameElements ns ms) :
      SameElement (.element ⟨{ part := name }, [], []⟩ text ns tail)
        (.element ⟨{ part := name }, [], []⟩ text' ms tail')

/-- Lists of elements that are the same one by one. -/
inductive SameElements : List Node → List Node → Prop
  | nil : SameElements [] []
  | cons {n m : Node} {ns ms : List Node} (h : SameElement n m) (hs : SameElements ns ms) :
      SameElements (n :: ns) (m :: ms)

end

section

variable {e n m : Node} {es ns : List Node}

/-- The text after an element does not matter. -/
lemma SameElement.withTail (h : SameElement e n) (t : Option String) :
    SameElement e (n.withTail t) := by
  cases h with
  | element htext hall => exact .element htext hall

/-- Elements without blanks between their nodes are the same one by one. -/
lemma SameElements.of_forall (h : ∀ n ∈ ns, SameElement n n) : SameElements ns ns := by
  induction ns with
  | nil => exact .nil
  | cons n ns ih =>
    exact .cons (h n List.mem_cons_self) (ih fun m hm => h m (List.mem_cons_of_mem n hm))

/-- Lists of elements that are the same have the same elements at each position. -/
lemma SameElements.getElem? {ms : List Node} (h : SameElements ns ms) {i : Nat}
    (hn : ns[i]? = some n) : ∃ m, ms[i]? = some m ∧ SameElement n m := by
  induction i generalizing ns ms with
  | zero =>
    cases h with
    | nil => cases hn
    | cons h _ =>
      obtain rfl := Option.some.inj hn
      exact ⟨_, rfl, h⟩
  | succ i ih =>
    cases h with
    | nil => cases hn
    | cons _ hs => exact ih hs hn

/-- Elements that are the same hold the same elements, at the same places. -/
lemma SameElement.at? {place : Place} {e' : Node} (h : SameElement e n)
    (he : e.at? place = some e') : ∃ n', n.at? place = some n' ∧ SameElement e' n' := by
  induction place generalizing e n with
  | nil =>
    obtain rfl := Option.some.inj he
    exact ⟨n, rfl, h⟩
  | cons i place ih =>
    cases h with
    | element _ hall =>
      obtain ⟨c, hc, he⟩ := Option.bind_eq_some_iff.1 he
      obtain ⟨m, hm, hsame⟩ := hall.getElem? hc
      obtain ⟨n', hn', hsame'⟩ := ih hsame he
      refine ⟨n', ?_, hsame'⟩
      rw [Node.at?]
      exact Option.bind_eq_some_iff.2 ⟨m, hm, hn'⟩

/-- Where an element holds a text and no elements, so does one that is the same. -/
lemma SameElement.leafAt?_eq {place : Place} {name text : String} (h : SameElement e n)
    (he : e.at? place = some (.leaf name text)) :
    n.leafAt? place = some (⟨{ part := name }, [], []⟩, text) := by
  obtain ⟨n', hn', hsame⟩ := h.at? he
  rw [Node.leafAt?, hn']
  cases hsame with
  | element htext hall =>
    cases hall
    exact congrArg (fun text => some (_, text)) (htext rfl)

mutual

/-- A new layout leaves an element the same. -/
theorem SameElement.layout (unit : List Char) (level : Nat) :
    ∀ {e n : Node}, SameElement e n → SameElement e (n.layout unit level)
  | _, .element _ _ [] _, h => h
  | _, .element _ _ (_ :: _) _, .element _ hall =>
    .element (fun hnil => by subst hnil; cases hall) (hall.layoutAll unit level)

/-- A layout keeps the elements of nodes in a row. -/
theorem SameElements.layoutAll (unit : List Char) (level : Nat) :
    ∀ {es ns : List Node}, SameElements es ns → SameElements es (Node.layoutAll unit level ns)
  | _, [], h => h
  | _, _ :: _, .cons h hs =>
    .cons ((h.layout unit (level + 1)).withTail _) (hs.layoutAll unit level)

end

mutual

/-- Writing and reading leaves an element the same. -/
theorem SameElement.reread : ∀ {e n m : Node}, SameElement e n → Reread [] n m → SameElement e m
  | _, _, _, .element htext hall, .element _ hleaf hchildren _ => by
    refine .element (fun hnil => ?_) (hall.reread hchildren)
    subst hnil
    cases hall with
    | nil => rw [hleaf rfl, getD_solid, htext rfl]

/-- Elements in a row that are written and read are the same elements. -/
theorem SameElements.reread : ∀ {es ns ms : List Node}, SameElements es ns → RereadAll [] ns ms →
    SameElements es ms
  | _, _, _, .nil, .nil => .nil
  | _, _, _, .cons h hs, .cons h' hs' => .cons (h.reread h') (hs.reread hs')

end

end

end Xml

namespace SyntaxTree

mutual

/-- A tree in which the kinds of all nodes that can be shown are names: those of the root, and of
named nodes in named nodes. -/
def Nameable : SyntaxTree → Prop
  | ⟨kind, _, _, _, _, _, children⟩ => Xml.IsName kind ∧ AllNameable children

/-- The trees of a list that can be shown are such trees. -/
def AllNameable : List SyntaxTree → Prop
  | [] => True
  | t :: ts => (t.named = true → Nameable t) ∧ AllNameable ts

end

variable {f : NodeFilter} {t c : SyntaxTree}

/-- The kind of a nameable tree is a name. -/
lemma Nameable.isName_kind (h : t.Nameable) : Xml.IsName t.kind := by
  cases t
  exact h.1

/-- A named child of a nameable tree is nameable. -/
lemma Nameable.of_mem_children (h : t.Nameable) (hc : c ∈ t.children) (hnamed : c.named = true) :
    c.Nameable := by
  obtain ⟨kind, text, named, missing, start, hasError, children⟩ := t
  obtain ⟨-, hall⟩ := h
  simp only at hc
  induction children with
  | nil => cases hc
  | cons d ds ih =>
    rcases List.mem_cons.1 hc with rfl | hc
    · exact hall.1 hnamed
    · exact ih hc hall.2

/-- A shown child of a nameable tree is nameable. -/
lemma Nameable.of_mem_shownChildren (h : t.Nameable) (hc : c ∈ t.shownChildren f) :
    c.Nameable := by
  unfold shownChildren at hc
  split at hc
  · cases hc
  · obtain ⟨hmem, hshows⟩ := List.mem_filter.1 hc
    exact h.of_mem_children hmem (shows_iff.1 hshows).1

/-- **The element of a syntax tree can be written.**

**Proof sketch.** Induction on the tree: its kind is a name, and it holds the spelled text, which
can be written, or the elements of its children. -/
theorem readable_toElement (f : NodeFilter) (t : SyntaxTree) (h : t.Nameable) :
    (t.toElement f).Readable [] := by
  induction t using induction_children with
  | node t ih =>
    have htag := Xml.Tag.readable_plain h.isName_kind
    by_cases hnil : t.shownChildren f = []
    · rw [toElement_of_nil hnil]
      exact ⟨htag, Xml.validText_spelled t.text, trivial, Xml.validText_none⟩
    · rw [toElement_of_ne_nil hnil]
      refine ⟨htag, Xml.validText_none, Xml.Node.allReadable_iff.2 fun n hn => ?_,
        Xml.validText_none⟩
      obtain ⟨c, hc, rfl⟩ := List.mem_map.1 hn
      have hmem : c ∈ t.children := by
        rw [(shownChildren_of_ne_nil hnil).2] at hc
        exact (List.mem_filter.1 hc).1
      exact ih c hmem (h.of_mem_shownChildren hc)

/-- The element of a tree has no blanks between its nodes. -/
lemma sameElement_toElement (f : NodeFilter) (t : SyntaxTree) :
    Xml.SameElement (t.toElement f) (t.toElement f) := by
  induction t using induction_children with
  | node t ih =>
    by_cases hnil : t.shownChildren f = []
    · rw [toElement_of_nil hnil]
      exact .element (fun _ => rfl) .nil
    · rw [toElement_of_ne_nil hnil]
      refine .element (fun _ => rfl) (.of_forall fun n hn => ?_)
      obtain ⟨c, hc, rfl⟩ := List.mem_map.1 hn
      rw [(shownChildren_of_ne_nil hnil).2] at hc
      exact ih c (List.mem_filter.1 hc).1

/-- The element of a tree is an element with no text after it. -/
lemma isElement_toElement (f : NodeFilter) (t : SyntaxTree) :
    (t.toElement f).isElement = true ∧ (t.toElement f).tail = none := by
  by_cases hnil : t.shownChildren f = []
  · rw [toElement_of_nil hnil]
    exact ⟨rfl, rfl⟩
  · rw [toElement_of_ne_nil hnil]
    exact ⟨rfl, rfl⟩

/-- The element of a syntax tree is accepted once it is written. -/
theorem exists_parse?_render (f : NodeFilter) (h : t.Nameable) :
    ∃ m, Xml.parse? (t.build f).render = some m ∧ Xml.Reread [] (t.build f) m := by
  rw [build_eq_toElement]
  exact Xml.Node.exists_parse?_render (readable_toElement f t h) (isElement_toElement f t).1
    (isElement_toElement f t).2

end SyntaxTree

/-! ## Writing, laying out and reading -/

/-- The text at the beginning of an element. -/
def Xml.Node.text : Xml.Node → Option String
  | element _ text _ _ => text
  | _ => none

/-- The text of every node in a readable one can be written.

**Proof sketch.** Induction on the place, since the nodes in a readable one are readable. -/
lemma Xml.Node.Readable.validText_at? {around : Xml.Scope} {n m : Xml.Node} {place : Place}
    (h : n.Readable around) (hm : n.at? place = some m) : Xml.ValidText m.text := by
  induction place generalizing n around with
  | nil =>
    obtain rfl : n = m := Option.some.inj hm
    cases n with
    | element tag text children tail => exact h.2.1
    | comment text tail => exact Xml.validText_none
    | instruction target text tail => exact Xml.validText_none
  | cons i place ih =>
    obtain ⟨c, hc, hplace⟩ := Option.bind_eq_some_iff.1 hm
    cases n with
    | element tag text children tail =>
      exact ih (Xml.Node.allReadable_iff.1 h.2.2.1 c (List.mem_of_getElem? hc)) hplace
    | comment text tail => cases hc
    | instruction target text tail => cases hc

/-- **A syntax tree in XML can be read back.** Every text of its element can stand in a document;
the element is accepted once it is written, and laid out; and what is read of the result is the same
element, with the same names, the same elements in each, and the same texts.  These are the source
texts of the nodes none of whose children is emitted, as documents spell them.

**Proof sketch.** The element is written and read twice, and laid out in between. Reading drops at
most blank texts beside other nodes, and the new layout fills such places only. An element that
holds no others was built with the spelling of the text of its node. -/
theorem showTree_xml_readable (f : NodeFilter) (t : SyntaxTree) (herror : t.hasError = false)
    (hnames : t.Nameable) :
    (∀ place m, (t.build f).at? place = some m → Xml.ValidText m.text) ∧
    ∃ out again, convert (t.build f).render (.inl .xml) = .ok out ∧
      showTree f (.inl .xml) t = .ok out ∧
      (∀ source, Java.parse source = t → parseString f (.inl .xml) source = .ok out) ∧
      Xml.parse? out = some again ∧ Xml.SameElement (t.build f) again ∧
      ∀ place n, SyntaxTree.Emitted f t place → t.at? place = some n →
        (∀ i, ¬ SyntaxTree.Emitted f t (place ++ [i])) →
        again.leafAt? (t.elementPlace f place) =
          some (⟨{ part := n.kind }, [], []⟩, Xml.spelled n.text) := by
  have hreadable : (t.build f).Readable [] := by
    rw [SyntaxTree.build_eq_toElement]
    exact SyntaxTree.readable_toElement f t hnames
  refine ⟨fun place m hm => hreadable.validText_at? hm, ?_⟩
  obtain ⟨raw, hraw, hrereadRaw⟩ := SyntaxTree.exists_parse?_render f hnames
  have hsame : Xml.SameElement (t.build f) (t.build f) := by
    rw [SyntaxTree.build_eq_toElement]
    exact SyntaxTree.sameElement_toElement f t
  obtain ⟨hrawReadable, helement, htail⟩ := Xml.readable_of_parse? hraw
  obtain ⟨again, hagain, hreread⟩ :=
    Xml.Node.exists_parse?_format hrawReadable helement htail defaultIndent
  have hformat : formatXml (t.build f).render = some (raw.format defaultIndent) := by
    rw [formatXml, hraw, Option.map_some]
  have hconvert : convert (t.build f).render (.inl .xml) = .ok (raw.format defaultIndent) := by
    simp only [convert, Representation.show?, hformat]
  have hshow : showTree f (.inl .xml) t = .ok (raw.format defaultIndent) := by
    rw [showTree, elementOfTree, herror]
    simp only [Bool.false_eq_true, ↓reduceIte, showElement, hconvert]
    rfl
  have hsameAgain : Xml.SameElement (t.build f) again :=
    ((hsame.reread hrereadRaw).layout (indentation defaultIndent) 0).reread hreread
  refine ⟨raw.format defaultIndent, again, hconvert, hshow, fun source hsource => ?_, hagain,
    hsameAgain, fun place n h hn hnone => ?_⟩
  · rw [parseString, hsource, hshow]
  · have hnil := (SyntaxTree.shownChildren_eq_nil_iff hn h).2 hnone
    have hleaf : (t.build f).at? (t.elementPlace f place) =
        some (.leaf n.kind (Xml.spelled n.text)) := by
      rw [SyntaxTree.build_eq_toElement, SyntaxTree.at?_toElement h hn,
        SyntaxTree.toElement_of_nil hnil]
    exact hsameAgain.leafAt?_eq hleaf

/-- A tree whose texts are blank, empty, and full of markup, or cannot be shown as they are. -/
def awkwardTree : SyntaxTree where
  kind := "program"
  children := [
    { kind := ";", text := ";", named := false },
    { kind := "line_comment", text := " \t\r\n" },
    { kind := "string_literal", text := "\"]]> & <b> \r\x00\uFFFE\""
      children := [{ kind := "escape_sequence", text := "\\0" }] },
    { kind := "block", text := " x "
      children := [
        { kind := "identifier", text := "" },
        { kind := "modifiers", text := "static" },
        { kind := "identifier", text := " x " }] }]

/-- The awkward tree has names as kinds. -/
lemma nameable_awkwardTree : awkwardTree.Nameable := by
  simp only [awkwardTree, SyntaxTree.Nameable, SyntaxTree.AllNameable]
  decide +kernel

/-- A filter that shows a node with children as a leaf, and omits another one. -/
def awkwardFilter : NodeFilter := ⟨[], ["modifiers"], ["string_literal"]⟩

/-- The awkward tree in XML can be read back, also if some of its nodes are left out.  Blank texts,
markup and empty texts are read as they were, and the characters that no document holds as their
code points. -/
theorem showTree_xml_readable_awkwardTree :
    awkwardTree.hasError = false ∧ awkwardTree.Nameable ∧
    ∃ out again, showTree awkwardFilter (.inl .xml) awkwardTree = .ok out ∧
      Xml.parse? out = some again ∧ Xml.SameElement (awkwardTree.build awkwardFilter) again ∧
      again.leafAt? [0] = some (⟨{ part := "line_comment" }, [], []⟩, " \t\r\n") ∧
      again.leafAt? [1] = some (⟨{ part := "string_literal" }, [], []⟩,
        "\"]]> & <b> \r\\u0000\\ufffe\"") ∧
      again.leafAt? [2, 0] = some (⟨{ part := "identifier" }, [], []⟩, "") ∧
      again.leafAt? [2, 1] = some (⟨{ part := "identifier" }, [], []⟩, " x ") := by
  obtain ⟨-, out, again, -, hshow, -, hagain, hsame, htexts⟩ := showTree_xml_readable
    awkwardFilter awkwardTree rfl nameable_awkwardTree
  have hemitted : ∀ place, SyntaxTree.Emitted awkwardFilter awkwardTree place ↔
      place ∈ [[], [1], [2], [3], [3, 0], [3, 2]] := by
    have hlist : awkwardTree.emitted awkwardFilter = [[], [1], [2], [3], [3, 0], [3, 2]] := by
      decide +kernel
    intro place
    rw [← SyntaxTree.mem_emitted, hlist]
  have hleaf : ∀ place ∈ [[1], [2], [3, 0], [3, 2]], ∀ place' kind text,
      awkwardTree.elementPlace awkwardFilter place = place' →
      (awkwardTree.at? place).map (fun n => (n.kind, Xml.spelled n.text)) = some (kind, text) →
      again.leafAt? place' = some (⟨{ part := kind }, [], []⟩, text) := by
    rintro place hplace place' kind text rfl hnode
    obtain ⟨n, hn, he⟩ := Option.map_eq_some_iff.1 hnode
    obtain ⟨rfl, rfl⟩ := Prod.mk.inj he
    refine htexts place n ((hemitted place).2 ?_) hn fun i hi => ?_
    · simp only [List.mem_cons, List.not_mem_nil, or_false] at hplace ⊢
      tauto
    · have hchild := (hemitted _).1 hi
      simp only [List.mem_cons, List.not_mem_nil, or_false] at hplace
      rcases hplace with rfl | rfl | rfl | rfl <;> simp at hchild
  exact ⟨rfl, nameable_awkwardTree, out, again, hshow, hagain, hsame,
    hleaf [1] (by decide) _ _ _ (by decide +kernel) (by decide +kernel),
    hleaf [2] (by decide) _ _ _ (by decide +kernel) (by decide +kernel),
    hleaf [3, 0] (by decide) _ _ _ (by decide +kernel) (by decide +kernel),
    hleaf [3, 2] (by decide) _ _ _ (by decide +kernel) (by decide +kernel)⟩

end JavaTree
