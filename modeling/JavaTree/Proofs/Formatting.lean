import JavaTree.Proofs.Xml.DefaultSpace
import JavaTree.Representation

/-!
# Documents with a new layout

A document is laid out by setting the blanks between its nodes.  What they were before does not
matter, so a document that is laid out twice has the second layout; and a document that is laid out
is read as the same elements, texts, comments and instructions as before.

Two things are not told apart in writing, and both are stated here with the documents that show
them: an empty text of an element without nodes, as an empty `CDATA` section leaves it, is written
and then read as none; and an element without prefix that is in no namespace, as it may come out of
a declared name, is read in the default namespace around it.

## Main results

* `formatXml_normalises` — documents that differ in blanks between nodes have the same layout, and
  the last layout wins.
* `formatXml_frame` — what is read of a document that is laid out.
* `formatXml_emptySection`, `elementNames_foreignElement` — documents for which the two exceptions
  matter.
-/

namespace JavaTree

/-- A document that is laid out is accepted, and read as it was up to blanks between nodes, empty
texts and namespaces of elements without prefix. -/
lemma exists_parse?_format {text : String} {root : Xml.Node} (h : Xml.parse? text = some root)
    (n : Int) : ∃ again, Xml.parse? (root.format n) = some again ∧ again.compact = again ∧
      again.unspaced = (root.settled []).compact.unspaced := by
  obtain ⟨hreadable, helement, htail⟩ := Xml.readable_of_parse? h
  obtain ⟨again, hagain, hreread⟩ := Xml.Node.exists_parse?_format hreadable helement htail n
  have hlaid := hreread.unspaced_eq (hreadable.layout (Xml.allChars_indentation n) 0)
  have hself : ∀ m : Xml.Node, m.tail = none → m.unspaced.withTail none = m.unspaced :=
    fun m hm => by rw [← hm, ← Xml.Node.tail_unspaced, Xml.Node.withTail_tail]
  rw [hself again (Xml.readable_of_parse? hagain).2.2, hself _ (by simp [htail]),
    Xml.Node.remake_layout, Xml.Node.unspaced_layout (Xml.all_isBlank_indentation n)] at hlaid
  exact ⟨again, hagain, hreread.compact_eq, by rw [hlaid, Xml.Node.compact_settled]⟩

/-- A text that is read is laid out. -/
lemma formatXml_of_parse? {text : String} {root : Xml.Node} (h : Xml.parse? text = some root)
    (n : Int) : formatXml text n = some (root.format n) := by
  rw [formatXml, h, Option.map_some]

/-- A document that is laid out twice has the second layout, once its empty texts are left out. -/
lemma formatXml_format {text : String} {root : Xml.Node} (h : Xml.parse? text = some root)
    (n m : Int) : formatXml (root.format n) m = some (root.compact.format m) := by
  obtain ⟨again, hagain, -, hunspaced⟩ := exists_parse?_format h n
  rw [formatXml_of_parse? hagain, Xml.Node.format_eq_of_unspaced_eq hunspaced,
    Xml.Node.format_compact_settled]

/-- **A new layout takes the place of the old one.** Documents that differ only in blanks between
nodes have the same layout. A document that is laid out twice has the second layout if and only if
none of its elements without nodes holds an empty text; and from then on every document has its last
layout.

**Proof sketch.** A layout does not depend on the blanks between nodes, and a document that is laid
out is read as it was but for these, for namespaces, which a layout does not show, and for empty
texts, without which a document is written with fewer characters. -/
theorem formatXml_normalises :
    (∀ x y rootX rootY, Xml.parse? x = some rootX → Xml.parse? y = some rootY →
      rootX.unspaced = rootY.unspaced → ∀ m, formatXml x m = formatXml y m) ∧
    (∀ x root, Xml.parse? x = some root → ∀ n m,
      (formatXml x n).bind (fun laid => formatXml laid m) = formatXml x m ↔ root.compact = root) ∧
    (∀ x n k m, ((formatXml x n).bind fun laid => formatXml laid k).bind
        (fun laid => formatXml laid m) =
      (formatXml x n).bind fun laid => formatXml laid m) := by
  refine ⟨fun x y rootX rootY hx hy h m => ?_, fun x root hx n m => ?_, fun x n k m => ?_⟩
  · rw [formatXml_of_parse? hx, formatXml_of_parse? hy, Xml.Node.format_eq_of_unspaced_eq h]
  · rw [formatXml_of_parse? hx, formatXml_of_parse? hx, Option.bind_some, formatXml_format hx,
      Option.some.injEq]
    exact ⟨Xml.Node.compact_eq_of_format_eq, fun h => by rw [h]⟩
  · cases hx : Xml.parse? x with
    | none =>
      have hnone : formatXml x n = none := by rw [formatXml, hx, Option.map_none]
      rw [hnone]
      rfl
    | some root =>
      obtain ⟨again, hagain, hcompact, -⟩ := exists_parse?_format hx n
      rw [formatXml_of_parse? hx, Option.bind_some, Option.bind_some, formatXml_of_parse? hagain,
        Option.bind_some, formatXml_format hagain, hcompact, formatXml_of_parse? hagain]

/-- Blanks between nodes do not matter, nor does a layout before the last. -/
theorem formatXml_normalises_blankTail :
    formatXml "<a>x<b/> <c/></a>" 3 = formatXml "<a>x<b/><c/></a>" 3 ∧
    (formatXml "<a>x<b/> <c/></a>" 1).bind (fun laid => formatXml laid 3) =
      formatXml "<a>x<b/> <c/></a>" 3 := by
  have hblankTokens : Xml.tokens? [] "<a>x<b/> <c/></a>".toList =
      some [.opening ⟨"", "a"⟩ [] false, .run ['x'] .markup, .opening ⟨"", "b"⟩ [] true,
        .run [' '] .markup, .opening ⟨"", "c"⟩ [] true, .closing ⟨"", "a"⟩] := by
    cbv
  have hsolidTokens : Xml.tokens? [] "<a>x<b/><c/></a>".toList =
      some [.opening ⟨"", "a"⟩ [] false, .run ['x'] .markup, .opening ⟨"", "b"⟩ [] true,
        .opening ⟨"", "c"⟩ [] true, .closing ⟨"", "a"⟩] := by
    cbv
  have hblank : Xml.parse? "<a>x<b/> <c/></a>" =
      some (.element ⟨{ part := "a" }, [], []⟩ (some "x")
        [.element ⟨{ part := "b" }, [], []⟩ none [] (some " "),
          .element ⟨{ part := "c" }, [], []⟩ none [] none] none) := by
    rw [Xml.parse?_of_steps (d := {}) (by decide +kernel) (by decide +kernel) (by decide +kernel)
      hblankTokens]
    rfl
  have hsolid : Xml.parse? "<a>x<b/><c/></a>" =
      some (.element ⟨{ part := "a" }, [], []⟩ (some "x")
        [.element ⟨{ part := "b" }, [], []⟩ none [] none,
          .element ⟨{ part := "c" }, [], []⟩ none [] none] none) := by
    rw [Xml.parse?_of_steps (d := {}) (by decide +kernel) (by decide +kernel) (by decide +kernel)
      hsolidTokens]
    rfl
  have hvacant : Xml.unblank (some " ") = Xml.unblank none := by decide +kernel
  refine ⟨formatXml_normalises.1 _ _ _ _ hblank hsolid ?_ 3,
    (formatXml_normalises.2.1 _ _ hblank 1 3).2 rfl⟩
  simp only [Xml.Node.unspaced, Xml.Node.unspacedAll, Xml.Node.tail, Xml.Node.withTail, hvacant]

/-- An empty section leaves an empty text, which is lost when the document is laid out again. -/
theorem formatXml_emptySection :
    formatXml "<a><![CDATA[]]></a>" 3 = some "<a></a>" ∧
    (formatXml "<a><![CDATA[]]></a>" 3).bind (fun laid => formatXml laid 3) = some "<a/>" := by
  decide +kernel

/-- **What is kept by a layout.** A document that is laid out is accepted, and read as it was up to
blanks between nodes: the same tags with their attributes, comments, instructions and texts, where
an empty text of an element without nodes counts as absent, and an element without prefix is in the
default namespace around it. So all names are the same, namespaces included, if and only if the
elements without prefix were in these namespaces before, as they are in every document that
declares no names for texts.

**Proof sketch.** A layout changes blanks only, and a written document is read as it was but for
these two things. The elements of a document without declared names are resolved in the scopes that
they are written in. -/
theorem formatXml_frame {text : String} {root : Xml.Node} (h : Xml.parse? text = some root)
    (n : Int) :
    ∃ laid again, formatXml text n = some laid ∧ Xml.parse? laid = some again ∧
      again.unspaced = (root.settled []).compact.unspaced ∧
      (again.elementNames = root.elementNames ↔ root.settled [] = root) ∧
      (Xml.entitiesOf text = [] → again.unspaced = root.compact.unspaced) := by
  obtain ⟨again, hagain, -, hunspaced⟩ := exists_parse?_format h n
  have hnames : again.elementNames = (root.settled []).elementNames := by
    rw [← Xml.Node.elementNames_unspaced, hunspaced, Xml.Node.elementNames_unspaced,
      Xml.Node.compact, Xml.Node.elementNames_remake_keep]
  refine ⟨root.format n, again, formatXml_of_parse? h n, hagain, hunspaced, ?_, fun hentities => ?_⟩
  · rw [hnames]
    exact ⟨Xml.Node.settled_eq_self [] root, fun hsettled => by rw [hsettled]⟩
  · rw [hunspaced, Xml.settled_of_parse? h hentities]

/-- A document whose root declares a default namespace keeps its names. -/
theorem formatXml_frame_defaultSpace :
    ∃ root again, Xml.parse? "<r xmlns='u'> <b/>x<!--c--> </r>" = some root ∧
      Xml.parse? "<r xmlns=\"u\">\n   <b/>x<!--c-->\n</r>" = some again ∧
      again.unspaced = root.compact.unspaced ∧ again.elementNames = root.elementNames := by
  have htokens : Xml.tokens? [] "<r xmlns='u'> <b/>x<!--c--> </r>".toList =
      some [.opening ⟨"", "r"⟩ [(⟨"", "xmlns"⟩, "u")] false, .run [' '] .markup,
        .opening ⟨"", "b"⟩ [] true, .run ['x'] .markup, .comment "c", .run [' '] .closing,
        .closing ⟨"", "r"⟩] := by
    cbv
  have hparse : Xml.parse? "<r xmlns='u'> <b/>x<!--c--> </r>" =
      some (.element ⟨⟨some "u", "", "r"⟩, [("", "u")], []⟩ none
        [.element ⟨⟨some "u", "", "b"⟩, [], []⟩ none [] (some "x"),
          .comment "c" (some " ")] none) := by
    rw [Xml.parse?_of_steps (d := {}) (by decide +kernel) (by decide +kernel) (by decide +kernel)
      htokens]
    rfl
  obtain ⟨laid, again, hlaid, hagain, -, hnames, hkept⟩ := formatXml_frame hparse 3
  have htext : formatXml "<r xmlns='u'> <b/>x<!--c--> </r>" 3 =
      some "<r xmlns=\"u\">\n   <b/>x<!--c-->\n</r>" := by
    rw [formatXml_of_parse? hparse]
    decide +kernel
  rw [htext, Option.some.injEq] at hlaid
  subst hlaid
  exact ⟨_, again, hparse, hagain, hkept (by decide +kernel), hnames.2 rfl⟩

/-- The tokens of a document with an element out of a declared name. -/
lemma tokens?_foreignElement :
    Xml.tokens? [("e", "<b/>".toList)] "<r xmlns=\"u\">&e;</r>".toList =
      some [.opening ⟨"", "r"⟩ [(⟨"", "xmlns"⟩, "u")] false, .enter, .opening ⟨"", "b"⟩ [] true,
        .leave, .closing ⟨"", "r"⟩] := by
  have hopening (expand) : Xml.readToken [("e", "<b/>".toList)] expand
      ('<' :: "r xmlns=\"u\">&e;</r>".toList) =
        some ([.opening ⟨"", "r"⟩ [(⟨"", "xmlns"⟩, "u")] false],
          ['&', 'e', ';', '<', '/', 'r', '>']) := by
    cbv
  have hname : Xml.readReference ['e', ';', '<', '/', 'r', '>'] =
      some (.entity "e", ['<', '/', 'r', '>']) := by
    cbv
  have hreference {expand} (h : expand "<b/>".toList = some [.opening ⟨"", "b"⟩ [] true]) :
      Xml.readToken [("e", "<b/>".toList)] expand ['&', 'e', ';', '<', '/', 'r', '>'] =
        some ([.enter, .opening ⟨"", "b"⟩ [] true, .leave], ['<', '/', 'r', '>']) :=
    Xml.readToken_declared hname rfl h
  have hclosing (expand) : Xml.readToken [("e", "<b/>".toList)] expand ['<', '/', 'r', '>'] =
      some ([.closing ⟨"", "r"⟩], []) := by
    cbv
  have hinner : ((Xml.tokensWithin [("e", "<b/>".toList)] 1 "<b/>".toList).bind fun ts =>
      if Xml.balanced [] ts then some ts else none) = some [.opening ⟨"", "b"⟩ [] true] := by
    cbv
  have hlist : "<r xmlns=\"u\">&e;</r>".toList = '<' :: "r xmlns=\"u\">&e;</r>".toList := by
    decide +kernel
  have hlength : "<r xmlns=\"u\">&e;</r>".toList.length = 20 := by decide +kernel
  rw [Xml.tokens?, Xml.tokensWithin, hlength, hlist, Xml.readTokens_of_readToken (hopening _) 19,
    Xml.readTokens_of_readToken (hreference hinner) 18,
    Xml.readTokens_of_readToken (hclosing _) 17]
  rfl

/-- The steps by which a document with an element out of a declared name is read. -/
lemma parse?_foreignElement :
    Xml.parse? "<!DOCTYPE r [<!ENTITY e \"<b/>\">]><r xmlns=\"u\">&e;</r>" =
      Xml.assemble? [] [.opening ⟨"", "r"⟩ [(⟨"", "xmlns"⟩, "u")] false, .enter,
        .opening ⟨"", "b"⟩ [] true, .leave, .closing ⟨"", "r"⟩] :=
  Xml.parse?_of_steps (d := ⟨[("e", "<b/>".toList)], [], [], []⟩) (by decide +kernel)
    (by decide +kernel) (by decide +kernel) tokens?_foreignElement

/-- An element out of a declared name is in no namespace, but in the default one once it is laid
out. -/
theorem elementNames_foreignElement :
    (Xml.parse? "<!DOCTYPE r [<!ENTITY e \"<b/>\">]><r xmlns=\"u\">&e;</r>").map
        Xml.Node.elementNames =
      some [⟨some "u", "", "r"⟩, ⟨none, "", "b"⟩] ∧
    formatXml "<!DOCTYPE r [<!ENTITY e \"<b/>\">]><r xmlns=\"u\">&e;</r>" 3 =
      some "<r xmlns=\"u\">\n   <b/>\n</r>" ∧
    (Xml.parse? "<r xmlns=\"u\">\n   <b/>\n</r>").map Xml.Node.elementNames =
      some [⟨some "u", "", "r"⟩, ⟨some "u", "", "b"⟩] := by
  have htokens : Xml.tokens? [] "<r xmlns=\"u\">\n   <b/>\n</r>".toList =
      some [.opening ⟨"", "r"⟩ [(⟨"", "xmlns"⟩, "u")] false, .run "\n   ".toList .markup,
        .opening ⟨"", "b"⟩ [] true, .run ['\n'] .closing, .closing ⟨"", "r"⟩] := by
    cbv
  refine ⟨?_, ?_, ?_⟩
  · rw [parse?_foreignElement]
    decide +kernel
  · rw [formatXml, parse?_foreignElement]
    decide +kernel
  · rw [Xml.parse?_of_steps (d := {}) (by decide +kernel) (by decide +kernel) (by decide +kernel)
      htokens]
    decide +kernel

end JavaTree
