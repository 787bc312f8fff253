import JavaTree.Proofs.Xml.Reading

/-!
# A written document is read back

Writing a tree and reading it gives the tree again, up to white space between nodes: a text that is
blank and stands beside nodes may be dropped, an empty text counts as absent, and an element
without prefix is in the default namespace around it.

## Main definitions

* `Xml.Tag.Readable`, `Xml.Node.Readable` — what can be written so that it is read back where some
  namespaces are in force.
* `Xml.Reread` — what reading makes of a written node.

## Main results

* `Xml.resolveTag_assignments` — the names of a written tag are resolved as they were.
* `Xml.Node.exists_parse?_render` — a written tree is accepted, and read back as described.
-/

namespace JavaTree.Xml

/-! ## Tags -/

/-- The namespaces in force in an element. -/
def Tag.scope (t : Tag) (around : Scope) : Scope := t.spaces.reverse ++ around

/-- A tag as it is read where some namespaces are in force. -/
def Tag.within (t : Tag) (around : Scope) : Tag :=
  { t with name := (resolveName? (t.scope around) true t.writtenName).getD t.name }

/-- A tag that can be written and is accepted where some namespaces are in force. -/
structure Tag.Readable (around : Scope) (t : Tag) : Prop where
  valid_name : t.writtenName.Valid
  valid_assignments : ∀ a ∈ t.assignments, ValidAttribute a
  no_xml : ∀ d ∈ t.spaces, d.1 ≠ "xml"
  may_declare : ∀ d ∈ t.spaces, mayDeclare d.1 d.2 = true
  not_declared : ∀ a ∈ t.attributes, declared? ⟨a.name.label, a.name.part⟩ = none
  distinct : allDistinct (t.assignments.map fun a => (a.1.label, a.1.part)) = true
  resolves_name : (resolveName? (t.scope around) true t.writtenName).isSome = true
  keeps_prefixed : t.name.label ≠ "" →
    resolveName? (t.scope around) false t.writtenName = some t.name
  resolves_attributes : ∀ a ∈ t.attributes,
    resolveName? (t.scope around) false ⟨a.name.label, a.name.part⟩ = some a.name
  distinct_attributes : allDistinct (t.attributes.map fun a => (a.name.space, a.name.part)) = true

/-- The name that a written name is resolved to is written the same way. -/
lemma written_of_resolveName? {scope : Scope} {useDefault : Bool} {w : Written} {n : Name}
    (h : resolveName? scope useDefault w = some n) : (⟨n.label, n.part⟩ : Written) = w := by
  unfold resolveName? at h
  split at h
  · rename_i hw
    have hlabel : w.label = "" := by simpa using hw
    split at h <;> cases h <;> rw [← hlabel]
  · split at h
    · rename_i hxml
      have hlabel : w.label = "xml" := by simpa using hxml
      cases h
      rw [← hlabel]
    · obtain ⟨uri, -, rfl⟩ := Option.map_eq_some_iff.1 h
      rfl

/-- The default namespace does not matter for a name with a prefix. -/
lemma resolveName?_of_label {w : Written} (h : w.label ≠ "") (scope : Scope) (useDefault : Bool) :
    resolveName? scope useDefault w = resolveName? scope false w := by
  have hlabel : ¬(w.label == "") = true := by simpa using h
  unfold resolveName?
  rw [if_neg hlabel, if_neg hlabel]

/-- The name in the declaration of a prefix declares it. -/
lemma declared?_declaration (label : String) : declared? (declaration label) = some label := by
  unfold declaration declared?
  by_cases h : label = "" <;> simp [h]

/-- Members that can be taken back one by one can be taken back in a row. -/
lemma mapM_map_of_eq_some {α β : Type} {f : β → Option α} {g : α → β} {as : List α}
    (h : ∀ a ∈ as, f (g a) = some a) : (as.map g).mapM f = some as := by
  induction as with
  | nil => rfl
  | cons a as ih =>
    rw [List.map_cons, List.mapM_cons, h a List.mem_cons_self,
      ih fun b hb => h b (List.mem_cons_of_mem _ hb)]
    rfl

/-! ## Tags with resolved names -/

/-- The namespaces that attributes declare, by prefix. -/
def declarations (attributes : List (Written × String)) : List (String × String) :=
  attributes.filterMap fun a => (declared? a.1).map fun label => (label, a.2)

/-- The attributes that declare no namespace. -/
def ordinary (attributes : List (Written × String)) : List (Written × String) :=
  attributes.filter fun a => (declared? a.1).isNone

/-- Attributes with resolved names. -/
def resolveAll? (scope : Scope) (attributes : List (Written × String)) : Option (List Attribute) :=
  attributes.mapM fun a => (resolveName? scope false a.1).map fun r => ⟨r, a.2⟩

/-- **What it takes to resolve the names in a tag**, and what they are resolved to.

**Proof sketch.** The definition is written as two conditions and two results that are needed for
the tag; each direction takes them one after the other. -/
lemma resolveTag_eq_some_iff {around scope : Scope} {name : Written}
    {attributes : List (Written × String)} {tag : Tag} :
    resolveTag around name attributes = some (tag, scope) ↔
      (∀ d ∈ declarations attributes, mayDeclare d.1 d.2 = true) ∧
      allDistinct (attributes.map fun a => (a.1.label, a.1.part)) = true ∧
      tag.spaces = (declarations attributes).filter (fun d => d.1 != "xml") ∧
      scope = tag.scope around ∧
      resolveName? scope true name = some tag.name ∧
      resolveAll? scope (ordinary attributes) = some tag.attributes ∧
      allDistinct (tag.attributes.map fun a => (a.name.space, a.name.part)) = true := by
  have hunfold : resolveTag around name attributes =
      if !(declarations attributes).all (fun d => mayDeclare d.1 d.2) then none
      else if !allDistinct (attributes.map fun a => (a.1.label, a.1.part)) then none
      else
        (resolveName? (((declarations attributes).filter (fun d => d.1 != "xml")).reverse ++ around)
          true name).bind fun r =>
        (resolveAll? (((declarations attributes).filter (fun d => d.1 != "xml")).reverse ++ around)
          (ordinary attributes)).bind fun as =>
        if allDistinct (as.map fun a => (a.name.space, a.name.part)) then
          some (⟨r, (declarations attributes).filter (fun d => d.1 != "xml"), as⟩,
            ((declarations attributes).filter (fun d => d.1 != "xml")).reverse ++ around)
        else none := rfl
  rw [hunfold]
  constructor
  · intro h
    split at h
    · cases h
    · rename_i hmay
      split at h
      · cases h
      · rename_i hdistinct
        simp only [Option.bind_eq_some_iff] at h
        obtain ⟨r, hr, as, has, h⟩ := h
        split at h
        · rename_i hfound
          cases h
          exact ⟨by simpa using hmay, by simpa using hdistinct, rfl, rfl, hr, has, hfound⟩
        · cases h
  · rintro ⟨hmay, hdistinct, hspaces, rfl, hname, hattributes, hfound⟩
    obtain ⟨r, spaces, as⟩ := tag
    obtain rfl : spaces = (declarations attributes).filter (fun d => d.1 != "xml") := hspaces
    have hall : (declarations attributes).all (fun d => mayDeclare d.1 d.2) = true :=
      List.all_eq_true.2 hmay
    rw [hall, hdistinct]
    simp only [Tag.scope] at hname hattributes
    simp only [Bool.not_true, Bool.false_eq_true, ↓reduceIte, hname, hattributes,
      Option.bind_some, hfound, Tag.scope]

section

variable {around : Scope} {t : Tag}

/-- The declarations among the attributes of a readable tag are those of its prefixes. -/
lemma Tag.declarations_assignments (h : t.Readable around) :
    declarations t.assignments = t.spaces := by
  have hattributes : declarations (t.attributes.map fun a =>
      ((⟨a.name.label, a.name.part⟩ : Written), a.value)) = [] := by
    rw [declarations, List.filterMap_eq_nil_iff]
    intro p hp
    obtain ⟨a, ha, rfl⟩ := List.mem_map.1 hp
    simp [h.not_declared a ha]
  unfold declarations at hattributes ⊢
  rw [Tag.assignments, List.filterMap_append, hattributes, List.append_nil, List.filterMap_map]
  simp [declared?_declaration]

/-- The other attributes are those of the tag itself. -/
lemma Tag.ordinary_assignments (h : t.Readable around) :
    ordinary t.assignments = t.attributes.map fun a => (⟨a.name.label, a.name.part⟩, a.value) := by
  have hspaces : ordinary (t.spaces.map fun d => (declaration d.1, d.2)) = [] := by
    rw [ordinary, List.filter_eq_nil_iff]
    intro p hp
    obtain ⟨d, -, rfl⟩ := List.mem_map.1 hp
    simp [declared?_declaration]
  unfold ordinary at hspaces ⊢
  rw [Tag.assignments, List.filter_append, hspaces, List.nil_append, List.filter_eq_self]
  intro p hp
  obtain ⟨a, ha, rfl⟩ := List.mem_map.1 hp
  simp [h.not_declared a ha]

/-- **The names of a written tag are resolved as they were**, the name of the element apart: without
a prefix it is in the namespace that is the default there. -/
theorem resolveTag_assignments (h : t.Readable around) :
    resolveTag around t.writtenName t.assignments = some (t.within around, t.scope around) := by
  obtain ⟨name, hname⟩ := Option.isSome_iff_exists.1 h.resolves_name
  have hkept : t.spaces.filter (fun d => d.1 != "xml") = t.spaces := by
    rw [List.filter_eq_self]
    intro d hd
    simpa using h.no_xml d hd
  rw [resolveTag_eq_some_iff, Tag.declarations_assignments h, Tag.ordinary_assignments h, hkept]
  refine ⟨h.may_declare, h.distinct, rfl, rfl, ?_, ?_, h.distinct_attributes⟩
  · rw [Tag.within, hname]
    rfl
  · refine mapM_map_of_eq_some fun a ha => ?_
    simp [h.resolves_attributes a ha]

end

/-- An element keeps its local name where another namespace is the default. -/
lemma Tag.part_within (t : Tag) (around : Scope) : (t.within around).name.part = t.name.part := by
  rw [within]
  cases h : resolveName? (t.scope around) true t.writtenName with
  | none => rfl
  | some n => exact congrArg Written.part (written_of_resolveName? h)

/-! ## Nodes -/

namespace Node

mutual

/-- A node that can be written and is read back where some namespaces are in force. -/
def Readable (around : Scope) : Node → Prop
  | element tag text children tail =>
    tag.Readable around ∧ ValidText text ∧ AllReadable (tag.scope around) children ∧ ValidText tail
  | comment text tail => IsComment text ∧ ValidText tail
  | instruction target text tail =>
    IsTarget target ∧ (∀ s ∈ text, IsInstruction s) ∧ ValidText tail

/-- Nodes that can be written and are read back where some namespaces are in force. -/
def AllReadable (around : Scope) : List Node → Prop
  | [] => True
  | n :: ns => Readable around n ∧ AllReadable around ns

end

end Node

/-- The text after a readable node can be written. -/
lemma Node.Readable.validText_tail {around : Scope} {n : Node} (h : n.Readable around) :
    ValidText n.tail := by
  cases n with
  | element tag text children tail => exact h.2.2.2
  | comment text tail => exact h.2
  | instruction target text tail => exact h.2.2

mutual

/-- What reading makes of a written node where some namespaces are in force. -/
inductive Reread : Scope → Node → Node → Prop
  | element {around : Scope} {tag : Tag} {text text' tail tail' : Option String}
      {children children' : List Node} (htext : TextReread text text')
      (hleaf : children = [] → text' = solid text)
      (hchildren : RereadAll (tag.scope around) children children')
      (htail : TextReread tail tail') :
      Reread around (.element tag text children tail)
        (.element (tag.within around) text' children' tail')
  | comment {around : Scope} {text : String} {tail tail' : Option String}
      (htail : TextReread tail tail') : Reread around (.comment text tail) (.comment text tail')
  | instruction {around : Scope} {target : String} {text tail tail' : Option String}
      (htail : TextReread tail tail') :
      Reread around (.instruction target text tail) (.instruction target text tail')

/-- What reading makes of written nodes, one after the other. -/
inductive RereadAll : Scope → List Node → List Node → Prop
  | nil {around : Scope} : RereadAll around [] []
  | cons {around : Scope} {n m : Node} {ns ms : List Node} (h : Reread around n m)
      (hs : RereadAll around ns ms) : RereadAll around (n :: ns) (m :: ms)

end

section

variable {around : Scope} {n m : Node} {ns ms : List Node}

/-- A node and the text after it are read one after the other. -/
lemma Reread.withTail {tail' : Option String} (h : Reread around (n.withTail none) m)
    (ht : TextReread n.tail tail') : Reread around n (m.withTail tail') := by
  cases n with
  | element tag text children tail =>
    cases h with
    | element htext hleaf hchildren _ => exact .element htext hleaf hchildren ht
  | comment text tail =>
    cases h with
    | comment _ => exact .comment ht
  | instruction target text tail =>
    cases h with
    | instruction _ => exact .instruction ht

/-- A node is written with the text after it behind. -/
lemma Node.write_eq (n : Node) : n.write = (n.withTail none).write ++ writeText n.tail := by
  cases n <;> simp [Node.write, Node.withTail, Node.tail, writeText]

/-- Every node begins with a bracket. -/
lemma Node.exists_write_eq (n : Node) : ∃ cs, n.write = '<' :: cs := by
  cases n with
  | element tag text children tail =>
    rw [Node.write]
    split <;> exact ⟨_, rfl⟩
  | comment text tail => exact ⟨_, rfl⟩
  | instruction target text tail => exact ⟨_, rfl⟩

/-- What is written for nodes before markup begins with markup. -/
lemma Node.exists_writeAll_eq (ns : List Node) (more : List Char) :
    ∃ cs, Node.writeAll ns ++ '<' :: more = '<' :: cs := by
  cases ns with
  | nil => exact ⟨more, rfl⟩
  | cons n ns =>
    obtain ⟨cs, hcs⟩ := n.exists_write_eq
    refine ⟨cs ++ Node.writeAll ns ++ '<' :: more, ?_⟩
    rw [Node.writeAll, hcs]
    simp

end

/-! ## Reading nodes -/

/-- The namespaces in force in the innermost open element. -/
def scopeOf (fs : List Frame) : Scope := (fs.head?.map (·.scope)).getD []

/-- The element that an opening tag begins. -/
def Frame.opened (tag : Tag) (fs : List Frame) : Frame :=
  ⟨tag.writtenName, tag.within (scopeOf fs), tag.scope (scopeOf fs),
    Assembly.blankRule (tag.within (scopeOf fs)) ((fs.head?.map (·.blanks)).getD .droppable),
    none, none, []⟩

/-- The opening tag of an element as written, an empty one or not. -/
def Tag.opening (tag : Tag) (empty : Bool) : List Char := '<' :: tag.write ++ tagEnd empty

/-- The closing tag of an element as written. -/
def Tag.closing (tag : Tag) : List Char := '<' :: '/' :: tag.writtenName.chars ++ ['>']

section

variable {expand : List Char → Option (List Token)} {fs : List Frame} {tag : Tag}

/-- The opening tag of a readable element is read as it was written. -/
lemma readToken_opening {around : Scope} (h : tag.Readable around) (empty : Bool)
    (rest : List Char) :
    readToken [] expand (tag.opening empty ++ rest) =
      some ([.opening tag.writtenName tag.assignments empty], rest) := by
  obtain ⟨c, cs, hname, hc⟩ := h.valid_name.chars_eq
  have hread := readTag_append h.valid_name h.valid_assignments [] empty rest
  have hwritten : tag.opening empty ++ rest = '<' :: (tag.writtenName.chars ++
      (tag.assignments.flatMap assign ++ tagEnd empty ++ rest)) := by
    simp [Tag.opening, Tag.write_eq]
  have hslash : c ≠ '/' := ne_separator hc (by decide)
  have hmark : c ≠ '!' := ne_separator hc (by decide)
  have hquestion : c ≠ '?' := ne_separator hc (by decide)
  rw [hwritten]
  rw [hname, List.cons_append] at hread ⊢
  simpa [readToken, hslash, hmark, hquestion] using hread

/-- An opening tag takes characters. -/
lemma length_lt_opening (empty : Bool) (rest : List Char) :
    rest.length < (tag.opening empty ++ rest).length := by
  simp only [Tag.opening, List.cons_append, List.length_cons, List.length_append]
  omega

/-- The opening tag of an element that is not empty begins the element. -/
lemma reads_opening (h : tag.Readable (scopeOf fs)) (rest : List Char) :
    Reads expand ⟨fs, none⟩ (tag.opening false ++ rest) ⟨.opened tag fs :: fs, none⟩ rest := by
  refine .single (readToken_opening h false rest) (length_lt_opening false rest) ?_
  have hresolve := resolveTag_assignments h
  unfold scopeOf at hresolve
  simp [Assembly.steps, Assembly.step, hresolve, Frame.opened, scopeOf, Contents.of?]

/-- The tag of an empty element is read as the whole element. -/
lemma reads_empty {a : Assembly} (h : tag.Readable (scopeOf fs)) (rest : List Char)
    (ha : Assembly.complete (.element (tag.within (scopeOf fs)) none [] none) fs = some a) :
    Reads expand ⟨fs, none⟩ (tag.opening true ++ rest) a rest := by
  refine .single (readToken_opening h true rest) (length_lt_opening true rest) ?_
  have hresolve := resolveTag_assignments h
  unfold scopeOf at hresolve ha
  simp [Assembly.steps, Assembly.step, hresolve, ha]

/-- The closing tag completes the innermost element. -/
lemma reads_closing {f : Frame} {a : Assembly} (hw : tag.writtenName.Valid)
    (hf : f.written = tag.writtenName) (rest : List Char)
    (ha : Assembly.complete f.node fs = some a) :
    Reads expand ⟨f :: fs, none⟩ (tag.closing ++ rest) a rest := by
  have hwritten : tag.closing ++ rest = '<' :: '/' :: (tag.writtenName.chars ++ '>' :: rest) := by
    simp [Tag.closing]
  rw [hwritten]
  have hread : readToken [] expand ('<' :: '/' :: (tag.writtenName.chars ++ '>' :: rest)) =
      some ([.closing tag.writtenName], rest) := by
    simp [readToken, readClosing_append hw]
  refine .single hread ?_ ?_
  · simp only [List.length_cons, List.length_append]
    omega
  · simp [Assembly.steps, Assembly.step, hf, ha]

/-- A comment that is written is read as a node of the element around it. -/
lemma reads_comment {f : Frame} {text : String} (h : IsComment text) (rest : List Char) :
    Reads expand ⟨f :: fs, none⟩ ((Node.comment text none).write ++ rest)
      ⟨f.addNode (.comment text none) :: fs, none⟩ rest := by
  have hwritten : (Node.comment text none).write ++ rest =
      '<' :: '!' :: '-' :: '-' :: (text.toList ++ '-' :: '-' :: '>' :: rest) := by
    simp [Node.write, writeText]
  rw [hwritten]
  have hread : readToken [] expand
      ('<' :: '!' :: '-' :: '-' :: (text.toList ++ '-' :: '-' :: '>' :: rest)) =
      some ([.comment text], rest) := by
    simp [readToken, readComment_append h]
  refine .single hread ?_ rfl
  simp only [List.length_cons, List.length_append]
  omega

/-- An instruction that is written is read as a node of the element around it. -/
lemma reads_instruction {f : Frame} {target : String} {text : Option String} (ht : IsTarget target)
    (h : ∀ s ∈ text, IsInstruction s) (rest : List Char) :
    Reads expand ⟨f :: fs, none⟩ ((Node.instruction target text none).write ++ rest)
      ⟨f.addNode (.instruction target text none) :: fs, none⟩ rest := by
  have hwritten : (Node.instruction target text none).write ++ rest =
      '<' :: '?' :: (instructionChars target text ++ rest) := by
    cases text <;> simp [Node.write, writeText, instructionChars]
  rw [hwritten]
  have hread : readToken [] expand ('<' :: '?' :: (instructionChars target text ++ rest)) =
      some ([.instruction target text], rest) := by
    simp [readToken, readInstruction_append ht h]
  refine .single hread ?_ rfl
  simp only [List.length_cons, List.length_append]
  omega

end

/-! ## Reading trees -/

/-- An element with further nodes after those that it holds. -/
def Frame.addNodes (f : Frame) (ns : List Node) : Frame :=
  { f with children := ns.reverse ++ f.children }

/-- Children are added one by one, each with the text after it. -/
lemma Frame.addNodes_addNode (f : Frame) (m : Node) (t : Option String) (b b' : BlankRule)
    (ms : List Node) :
    ((((f.addNode m).withText t).withBlanks b).addNodes ms).withBlanks b' =
      (f.addNodes (m.withTail t :: ms)).withBlanks b' := by
  simp [addNodes, addNode, withText, withBlanks]

/-- An element without text and children is written as an empty tag. -/
lemma Node.write_element (tag : Tag) (text : Option String) (children : List Node) :
    (element tag text children none).write =
      if text.isNone && children.isEmpty then tag.opening true
      else tag.opening false ++ writeText text ++ writeAll children ++ tag.closing := by
  unfold Node.write
  split <;> simp [Tag.opening, Tag.closing, tagEnd, writeText, Tag.writtenName,
    Name.written_toList]

section

variable (expand : List Char → Option (List Token))

mutual

/-- **A written node is read back**, the text after it apart, where it is complete at once.

**Proof sketch.** Induction on the tree. The opening tag begins an element; its text is read, and
dropped at most if nodes follow it; its children are read one after the other, each with the text
after it; and the closing tag completes the element. -/
theorem Node.exists_reads (rest : List Char) :
    ∀ (n : Node) (fs : List Frame), n.Readable (scopeOf fs) → (n.isElement = true ∨ fs ≠ []) →
      ∃ m a, Reread (scopeOf fs) (n.withTail none) m ∧ m.tail = none ∧
        Assembly.complete m fs = some a ∧
        Reads expand ⟨fs, none⟩ ((n.withTail none).write ++ rest) a rest
  | .element tag text children tail, fs, ⟨htag, htext, hchildren, _⟩, _ => by
    obtain ⟨a, ha⟩ : ∃ a : Node → Assembly, ∀ m, Assembly.complete m fs = some (a m) := by
      cases fs with
      | nil => exact ⟨fun m => ⟨[], some m⟩, fun _ => rfl⟩
      | cons f fs => exact ⟨fun m => ⟨f.addNode m :: fs, none⟩, fun _ => rfl⟩
    rw [Node.withTail, Node.write_element]
    -- an empty text keeps the tags of an element apart, but is read as no text
    by_cases hempty : (text.isNone && children.isEmpty) = true
    · obtain ⟨ht, hc⟩ := Bool.and_eq_true_iff.1 hempty
      obtain rfl : text = none := by simpa using ht
      obtain rfl : children = [] := by simpa using hc
      rw [if_pos hempty]
      exact ⟨_, _, .element (.kept none) (fun _ => rfl) .nil (.kept none), rfl, ha _,
        reads_empty htag rest (ha _)⟩
    · rw [if_neg hempty]
      obtain ⟨more, hmore⟩ := Node.exists_writeAll_eq children
        ('/' :: tag.writtenName.chars ++ ['>'] ++ rest)
      set g := Frame.opened tag fs with hg
      obtain ⟨text', b, hreadText, hreread, hleaf⟩ := Frame.reads_text expand fs more
        (rfl : g.content = none) rfl htext
      obtain ⟨ms, b', hall, hreadAll⟩ := Node.exists_readsAll
        ('/' :: tag.writtenName.chars ++ ['>'] ++ rest) children
        ((g.withText text').withBlanks b) fs hchildren rfl
      set g' := ((g.withText text').withBlanks b).addNodes ms with hg'
      have hnode : (g'.withBlanks b').node =
          .element (tag.within (scopeOf fs)) text' ms none := by
        simp [hg', hg, Frame.node, Frame.opened, Frame.withText, Frame.withBlanks, Frame.addNodes]
      refine ⟨.element (tag.within (scopeOf fs)) text' ms none, _,
        .element hreread (fun hc => ?_) hall (.kept none), rfl, ha _, ?_⟩
      · subst hc
        refine hleaf ?_ rfl
        rw [← hmore]
        rfl
      · have hclosing : Reads expand ⟨g'.withBlanks b' :: fs, none⟩ (tag.closing ++ rest)
            (a (.element (tag.within (scopeOf fs)) text' ms none)) rest :=
          reads_closing htag.valid_name rfl rest (by rw [hnode, ha])
        have hwritten : tag.opening false ++ writeText text ++ Node.writeAll children ++
            tag.closing ++ rest = tag.opening false ++ (writeText text ++ '<' :: more) := by
          rw [← hmore]
          simp [Tag.closing]
        rw [hwritten]
        refine (reads_opening htag _).trans (hreadText.trans ?_)
        rw [← hmore]
        exact hreadAll.trans (by simpa [Tag.closing] using hclosing)
  | .comment text tail, [], _, h => by simp [Node.isElement] at h
  | .comment text tail, f :: fs, ⟨hcomment, _⟩, _ =>
    ⟨_, _, .comment (.kept none), rfl, rfl, reads_comment hcomment rest⟩
  | .instruction target text tail, [], _, h => by simp [Node.isElement] at h
  | .instruction target text tail, f :: fs, ⟨htarget, htext, _⟩, _ =>
    ⟨_, _, .instruction (.kept none), rfl, rfl, reads_instruction htarget htext rest⟩

/-- **Written children are read back**, each with the text after it, up to the bracket of what
follows.

**Proof sketch.** Induction on the nodes, together with `Node.exists_reads` for each of them: a node
is read first, then the text after it, then the others. -/
theorem Node.exists_readsAll (more : List Char) :
    ∀ (ns : List Node) (f : Frame) (fs : List Frame), Node.AllReadable f.scope ns →
      f.content = none →
      ∃ ms b, RereadAll f.scope ns ms ∧
        Reads expand ⟨f :: fs, none⟩ (Node.writeAll ns ++ '<' :: more)
          ⟨(f.addNodes ms).withBlanks b :: fs, none⟩ ('<' :: more)
  | [], f, fs, _, _ => ⟨[], f.blanks, .nil, .done _ _⟩
  | n :: ns, f, fs, ⟨hn, hns⟩, hf => by
    obtain ⟨cs, hcs⟩ := Node.exists_writeAll_eq ns more
    obtain ⟨m, a, hreread, htail, ha, hread⟩ := Node.exists_reads (writeText n.tail ++ '<' :: cs) n
      (f :: fs) hn (.inr (List.cons_ne_nil f fs))
    obtain rfl : ⟨f.addNode m :: fs, none⟩ = a := Option.some.inj ha
    have hend : (f.addNode m).endsInText = false := by
      simp [Frame.endsInText, Frame.addNode, htail]
    have hcontent : (f.addNode m).content = none := hf
    obtain ⟨t', b, hreadText, hrereadText, -⟩ :=
      Frame.reads_text expand fs cs hcontent hend hn.validText_tail
    obtain ⟨ms, b', hall, hreadAll⟩ := Node.exists_readsAll more ns
      (((f.addNode m).withText t').withBlanks b) fs hns hf
    refine ⟨m.withTail t' :: ms, b', .cons (hreread.withTail hrereadText) hall, ?_⟩
    have hwritten : Node.writeAll (n :: ns) ++ '<' :: more =
        (n.withTail none).write ++ (writeText n.tail ++ '<' :: cs) := by
      rw [Node.writeAll, n.write_eq, ← hcs]
      simp
    rw [hwritten]
    refine hread.trans (hreadText.trans ?_)
    rw [← hcs]
    rwa [Frame.addNodes_addNode] at hreadAll

end

end

/-- **A written tree is accepted and read back**, up to white space between nodes.

**Proof sketch.** The document begins with the tag of its root, so nothing is declared before it;
and the root is read up to the end of the document. -/
theorem Node.exists_parse?_render {n : Node} (hn : n.Readable []) (he : n.isElement = true)
    (ht : n.tail = none) : ∃ m, parse? n.render = some m ∧ Reread [] n m := by
  obtain ⟨m, a, hreread, -, ha, hread⟩ := Node.exists_reads noEntities [] n [] hn (.inl he)
  obtain rfl : ⟨[], some m⟩ = a := Option.some.inj ha
  have hself : n.withTail none = n := by
    cases n <;> simp_all [Node.tail, Node.withTail]
  obtain ⟨d, cs, hwrite, hd⟩ : ∃ d cs, n.write = '<' :: d :: cs ∧ isNameStart d = true := by
    cases n with
    | element tag text children tail =>
      obtain ⟨c, cs, hname, hc⟩ := hn.1.valid_name.chars_eq
      obtain rfl : tail = none := ht
      rw [Node.write_element]
      split
      · exact ⟨c, _, by rw [Tag.opening, Tag.write_eq, hname]; rfl, hc⟩
      · exact ⟨c, _, by rw [Tag.opening, Tag.write_eq, hname]; rfl, hc⟩
    | comment text tail => simp [Node.isElement] at he
    | instruction target text tail => simp [Node.isElement] at he
  rw [hself] at hreread hread
  rw [hwrite, List.append_nil] at hread
  refine ⟨m, ?_, hreread⟩
  rw [Node.render, hwrite]
  exact parse?_of_reads hd hread

end JavaTree.Xml
