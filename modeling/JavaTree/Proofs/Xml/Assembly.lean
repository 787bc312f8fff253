import JavaTree.Proofs.Xml.Rereading
import JavaTree.Proofs.Xml.Tokens

/-!
# Properties that putting tokens together keeps

A property of the nodes of a document follows from what is known of its tokens, if an element has it
whose tag, texts and nodes are right.  The frames of the elements that are still open carry the
property through the tokens; what a declared name stands for is a frame of its own, in which no
namespaces are in force.

## Main definitions

* `Xml.NodeLaw` — a property of nodes, with what it takes of tokens, tags and texts.
* `Xml.NodeLaw.Open`, `Xml.NodeLaw.Holds` — open elements, and assemblies, that follow the law.

## Main results

* `Xml.NodeLaw.Holds.step` — every token keeps the law.
* `Xml.NodeLaw.holds_of_assemble?` — what tokens make follows the law.
-/

namespace JavaTree.Xml

/-- A property of nodes, by the namespaces in force around them, that a document has if its tokens
are as the law asks. -/
structure NodeLaw where
  /-- The tokens that the law allows. -/
  token : Token → Prop
  /-- The texts that may stand in an element. -/
  chars : List Char → Prop
  /-- The tags that an element may have. -/
  tag : Scope → Tag → Prop
  /-- The property itself. -/
  node : Scope → Node → Prop
  chars_nil : chars []
  chars_append {cs ds : List Char} : chars cs → chars ds → chars (cs ++ ds)
  chars_of_run {cs : List Char} {follow : Follow} : token (.run cs follow) → chars cs
  chars_of_chars {cs : List Char} : token (.chars cs) → chars cs
  named_of_opening {name : Written} {attributes : List (Written × String)} {empty : Bool} :
    token (.opening name attributes empty) → name ≠ Frame.apart.written
  named_of_closing {name : Written} : token (.closing name) → name ≠ Frame.apart.written
  tag_of_opening {name : Written} {attributes : List (Written × String)} {empty : Bool}
    {around scope : Scope} {t : Tag} : token (.opening name attributes empty) →
    resolveTag around name attributes = some (t, scope) → tag around t
  node_element {around : Scope} {t : Tag} {text : Option String} {ns : List Node} :
    tag around t → chars (text.getD "").toList → (∀ n ∈ ns, node (t.scope around) n) →
    node around (.element t text ns none)
  node_withTail {around : Scope} {n : Node} {cs : List Char} : node around n → chars cs →
    node around (n.withTail (joinText n.tail cs))
  node_comment {around : Scope} {text : String} : token (.comment text) →
    node around (.comment text none)
  node_instruction {around : Scope} {target : String} {text : Option String} :
    token (.instruction target text) → node around (.instruction target text none)
  node_of_apart {around : Scope} {n : Node} : token .leave → node [] n → node around n

namespace NodeLaw

variable {L : NodeLaw}

/-! ## Open elements -/

/-- An open element in which some namespaces are in force follows the law with what it holds so far.
It may also be what a declared name stands for, which is read where no namespaces are in force. -/
structure Open (L : NodeLaw) (around : Scope) (f : Frame) : Prop where
  text : L.chars (f.text.getD "").toList
  children : ∀ n ∈ f.children, L.node f.scope n
  tag : (f.written = Frame.apart.written ∧ f.scope = []) ∨
    (f.written ≠ Frame.apart.written ∧ L.tag around f.tag ∧ f.scope = f.tag.scope around)

/-- Each of the open elements follows the law where those around it are open. -/
def AllOpen (L : NodeLaw) : List Frame → Prop
  | [] => True
  | f :: fs => L.Open (scopeOf fs) f ∧ AllOpen L fs

section

variable {around : Scope} {f g : Frame}

/-- A text and a further one after it are a text that the law allows, if both are. -/
lemma chars_joinText {t : Option String} {cs : List Char} (ht : L.chars (t.getD "").toList)
    (hcs : L.chars cs) : L.chars ((joinText t cs).getD "").toList := by
  rw [joinText, Option.getD_some, String.toList_append, String.toList_ofList]
  exact L.chars_append ht hcs

/-- Characters are added to the text of the element, or to that after its last node. -/
lemma Open.addText (h : L.Open around f) {cs : List Char} (hcs : L.chars cs) :
    L.Open around (f.addText cs) := by
  obtain ⟨written, tag, scope, blanks, content, text, children⟩ := f
  cases children with
  | nil => exact ⟨chars_joinText h.text hcs, h.children, h.tag⟩
  | cons n ns =>
    refine ⟨h.text, fun m hm => ?_, h.tag⟩
    rcases List.mem_cons.1 hm with rfl | hm
    · exact L.node_withTail (h.children n List.mem_cons_self) hcs
    · exact h.children m (List.mem_cons_of_mem _ hm)

/-- A run of text is added, or dropped. -/
lemma Open.addRun (h : L.Open around f) {cs : List Char} (hcs : L.chars cs) (follow : Follow) :
    L.Open around (f.addRun cs follow) := by
  unfold Frame.addRun
  split
  · exact h
  · have hadd := h.addText hcs
    exact ⟨hadd.text, hadd.children, hadd.tag⟩

/-- A node is added that follows the law in the namespaces of the element. -/
lemma Open.addNode (h : L.Open around f) {n : Node} (hn : L.node f.scope n) :
    L.Open around (f.addNode n) := by
  refine ⟨h.text, fun m hm => ?_, h.tag⟩
  rcases List.mem_cons.1 hm with rfl | hm
  · exact hn
  · exact h.children m hm

/-- What a declared name stands for is added to the element that the name stands in.

**Proof sketch.** The text is added first, which changes neither the scope nor the nodes; then the
nodes are put behind those that are there. -/
lemma Open.addAll (h : L.Open around f) (ht : L.chars (g.text.getD "").toList)
    (hg : ∀ n ∈ g.children, L.node f.scope n) : L.Open around (f.addAll g) := by
  have hscope : ∀ cs, (f.addText cs).scope = f.scope := by
    intro cs
    obtain ⟨written, tag, scope, blanks, content, text, children⟩ := f
    cases children <;> rfl
  have key : ∀ f' : Frame, L.Open around f' → f'.scope = f.scope →
      L.Open around { f' with children := g.children ++ f'.children } := by
    intro f' hf' hs
    refine ⟨hf'.text, fun n hn => ?_, hf'.tag⟩
    rcases List.mem_append.1 hn with hn | hn
    · rw [hs]
      exact hg n hn
    · exact hf'.children n hn
  unfold Frame.addAll
  cases hs : g.text with
  | none => exact key f h rfl
  | some t =>
    rw [hs] at ht
    exact key _ (h.addText ht) (hscope _)

/-- An element whose closing tag is read follows the law. -/
lemma Open.node (h : L.Open around f) (hw : f.written ≠ Frame.apart.written) :
    L.node around f.node := by
  rcases h.tag with ⟨hapart, -⟩ | ⟨-, htag, hscope⟩
  · exact absurd hapart hw
  · refine L.node_element htag h.text fun n hn => ?_
    rw [← hscope]
    exact h.children n (List.mem_reverse.1 hn)

/-- What a declared name stands for is read where no namespaces are in force. -/
lemma Open.scope_eq_nil (h : L.Open around f) (hw : f.written = Frame.apart.written) :
    f.scope = [] := by
  rcases h.tag with ⟨-, hscope⟩ | ⟨hne, -⟩
  · exact hscope
  · exact absurd hw hne

end

/-! ## Taking in tokens -/

/-- Whatever the assembly holds follows the law. -/
structure Holds (L : NodeLaw) (a : Assembly) : Prop where
  frames : L.AllOpen a.frames
  root : ∀ n ∈ a.root, L.node [] n ∧ n.isElement = true ∧ n.tail = none

variable {contents : Contents} {a b : Assembly}

/-- A complete element is added to the one around it, or is the root. -/
lemma holds_of_complete {n : Node} {fs : List Frame} (hfs : L.AllOpen fs)
    (hn : L.node (scopeOf fs) n) (he : n.isElement = true) (ht : n.tail = none)
    (h : Assembly.complete n fs = some a) : L.Holds a := by
  cases fs with
  | nil =>
    cases h
    refine ⟨trivial, fun m hm => ?_⟩
    obtain rfl : n = m := Option.some.inj hm
    exact ⟨hn, he, ht⟩
  | cons f fs =>
    cases h
    exact ⟨⟨hfs.1.addNode hn, hfs.2⟩, fun m hm => by cases hm⟩

/-- The innermost open element is changed. -/
lemma holds_cons {f : Frame} {fs : List Frame} (hf : L.Open (scopeOf fs) f) (hfs : L.AllOpen fs) :
    L.Holds ⟨f :: fs, none⟩ :=
  ⟨⟨hf, hfs⟩, fun m hm => by cases hm⟩

/-- An opening tag begins an element that follows the law.

**Proof sketch.** The names in the tag are resolved in the scope around it. An element that is empty
is complete at once, and any other one is opened in the new scope. -/
lemma Holds.opening (ha : L.Holds a) {name : Written} {attributes : List (Written × String)}
    {empty : Bool} (ht : L.token (.opening name attributes empty))
    (h : a.step contents (.opening name attributes empty) = some b) : L.Holds b := by
  obtain ⟨fs, root⟩ := a
  simp only [Assembly.step] at h
  split at h
  · cases h
  · simp only [Option.bind_eq_bind, Option.bind_eq_some_iff] at h
    obtain ⟨⟨tag, scope⟩, hresolved, h⟩ := h
    have htag : L.tag (scopeOf fs) tag := L.tag_of_opening ht hresolved
    obtain ⟨-, -, -, hscope, -⟩ := resolveTag_eq_some_iff.1 hresolved
    split at h
    · have hempty : L.chars ((none : Option String).getD "").toList := L.chars_nil
      exact holds_of_complete ha.frames
        (L.node_element htag hempty (List.forall_mem_nil _)) rfl rfl h
    · cases h
      exact holds_cons ⟨L.chars_nil, List.forall_mem_nil _,
        .inr ⟨L.named_of_opening ht, htag, hscope⟩⟩ ha.frames

/-- A closing tag completes an element that follows the law. -/
lemma Holds.closing (ha : L.Holds a) {name : Written} (ht : L.token (.closing name))
    (h : a.step contents (.closing name) = some b) : L.Holds b := by
  obtain ⟨_ | ⟨f, fs⟩, root⟩ := a
  · cases h
  · simp only [Assembly.step] at h
    split at h
    · rename_i hw
      have hf : f.written ≠ Frame.apart.written := by
        rw [beq_iff_eq.1 hw]
        exact L.named_of_closing ht
      exact holds_of_complete ha.frames.2 (ha.frames.1.node hf) rfl rfl h
    · cases h

/-- At its end, what a declared name stands for is added to the element around it. -/
lemma Holds.leave (ha : L.Holds a) (ht : L.token .leave)
    (h : a.step contents .leave = some b) : L.Holds b := by
  obtain ⟨_ | ⟨g, _ | ⟨f, fs⟩⟩, root⟩ := a
  · cases h
  · cases h
  · simp only [Assembly.step] at h
    split at h
    · rename_i hw
      cases h
      obtain ⟨hg, hf, hfs⟩ := ha.frames
      refine holds_cons (hf.addAll hg.text fun n hn => L.node_of_apart ht ?_) hfs
      rw [← hg.scope_eq_nil (beq_iff_eq.1 hw)]
      exact hg.children n hn
    · cases h

/-- **Every token keeps the law.**

**Proof sketch.** One case for each kind of token. Tags begin and complete elements; text and other
nodes are added to the innermost open element, and change nothing outside the root. What a declared
name stands for begins with nothing in it. -/
theorem Holds.step (ha : L.Holds a) {t : Token} (ht : L.token t)
    (h : a.step contents t = some b) : L.Holds b := by
  obtain ⟨fs, root⟩ := a
  cases t with
  | opening name attributes empty => exact ha.opening ht h
  | closing name => exact ha.closing ht h
  | leave => exact ha.leave ht h
  | run cs follow =>
    cases fs with
    | nil =>
      simp only [Assembly.step] at h
      split at h
      · cases h
        exact ha
      · cases h
    | cons f fs =>
      cases h
      exact holds_cons (ha.frames.1.addRun (L.chars_of_run ht) follow) ha.frames.2
  | chars cs =>
    cases fs with
    | nil => cases h
    | cons f fs =>
      cases h
      exact holds_cons (ha.frames.1.addText (L.chars_of_chars ht)) ha.frames.2
  | comment text =>
    cases fs with
    | nil =>
      cases h
      exact ha
    | cons f fs =>
      cases h
      exact holds_cons (ha.frames.1.addNode (L.node_comment ht)) ha.frames.2
  | instruction target text =>
    cases fs with
    | nil =>
      cases h
      exact ha
    | cons f fs =>
      cases h
      exact holds_cons (ha.frames.1.addNode (L.node_instruction ht)) ha.frames.2
  | enter =>
    cases fs with
    | nil => cases h
    | cons f fs =>
      cases h
      exact holds_cons ⟨L.chars_nil, List.forall_mem_nil _, .inl ⟨rfl, rfl⟩⟩ ha.frames

/-- Once a token was out of place, nothing is put together any more. -/
lemma steps_none (ts : List Token) : Assembly.steps contents none ts = none := by
  induction ts with
  | nil => rfl
  | cons t ts ih => exact ih

/-- **All tokens together keep the law.**

**Proof sketch.** Induction on the tokens by `Holds.step`. -/
theorem Holds.steps {ts : List Token} (ha : L.Holds a) (hts : ∀ t ∈ ts, L.token t)
    (h : Assembly.steps contents (some a) ts = some b) : L.Holds b := by
  induction ts generalizing a with
  | nil =>
    cases h
    exact ha
  | cons t ts ih =>
    obtain ⟨ht, hts⟩ := List.forall_mem_cons.1 hts
    change Assembly.steps contents (a.step contents t) ts = some b at h
    cases hc : a.step contents t with
    | none =>
      rw [hc, steps_none] at h
      cases h
    | some c =>
      rw [hc] at h
      exact ih (ha.step ht hc) hts h

/-- **What tokens make follows the law**, and is an element with nothing after it. -/
theorem holds_of_assemble? {ts : List Token} {n : Node} (hts : ∀ t ∈ ts, L.token t)
    (h : assemble? contents ts = some n) :
    L.node [] n ∧ n.isElement = true ∧ n.tail = none := by
  unfold assemble? at h
  split at h
  · rename_i hsteps
    cases h
    have hstart : L.Holds ⟨[], none⟩ := ⟨trivial, fun m hm => by cases hm⟩
    exact (hstart.steps hts hsteps).root n rfl
  · cases h

end NodeLaw

end JavaTree.Xml
