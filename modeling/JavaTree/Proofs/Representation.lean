import JavaTree.Program
import JavaTree.Proofs.Json.OfXml

/-!
# JSON does not depend on layout

A document can be turned into JSON at once, or laid out first and turned into JSON then.  Both give
the same.  So whoever asks for JSON gets what the XML would have been turned into.

## Main definitions

* `jsonOf` — the JSON of a result in XML.

## Main results

* `xmlToJson_of_formatXml` — a document and the same document laid out have the same JSON.
* `json_eq_jsonOf_xml` — this for documents, sources, files, projects and requests.
-/

namespace JavaTree

/-- **A document and the same document laid out have the same JSON.**

**Proof sketch.** The tree of the document can be written and laid out, and is read back up to
blanks between its nodes, on which values do not depend. -/
theorem xmlToJson_of_formatXml {text laid : String} {n : Int} (h : formatXml text n = some laid)
    (m : Int) : xmlToJson laid m = xmlToJson text m := by
  obtain ⟨root, hroot, rfl⟩ := Option.map_eq_some_iff.1 h
  obtain ⟨hreadable, helement, htail⟩ := Xml.readable_of_parse? hroot
  obtain ⟨again, hagain, hreread⟩ := Xml.Node.exists_parse?_format hreadable helement htail n
  have hdocument : again.document = root.document := by
    rw [hreread.document_eq, Xml.Node.document_layout (Xml.all_isBlank_indentation n)]
  rw [xmlToJson, xmlToJson, hagain, hroot, Option.map_some, Option.map_some, hdocument]

/-- A new layout does not change the value of a document, nor whether it has one. -/
lemma formatXml_bind_xmlToJson (text : String) (n m : Int) :
    (formatXml text n).bind (fun laid => xmlToJson laid m) = xmlToJson text m := by
  cases h : formatXml text n with
  | none =>
    have hnone : Xml.parse? text = none := by simpa [formatXml] using h
    rw [Option.bind_none, xmlToJson, hnone, Option.map_none]
  | some laid => rw [Option.bind_some, xmlToJson_of_formatXml h]

/-- The JSON of a result in XML. -/
def jsonOf (text : String) : Except ExtractionError String :=
  (convert text (.inl .json)).mapError .conversion

/-- An element in JSON is the JSON of the element in XML. -/
lemma showElement_json (n : Xml.Node) :
    showElement (.inl .json) n = (showElement (.inl .xml) n).bind jsonOf := by
  have h := formatXml_bind_xmlToJson n.render defaultIndent defaultIndent
  simp only [showElement, convert, Representation.show?] at h ⊢
  cases hxml : formatXml n.render with
  | none =>
    have hjson : xmlToJson n.render = none := by
      rw [← h, hxml]
      rfl
    rw [hjson]
    rfl
  | some laid =>
    rw [hxml, Option.bind_some] at h
    rw [← h]
    rfl

/-- A syntax tree in JSON is the JSON of the tree in XML. -/
lemma showTree_json (f : NodeFilter) (t : SyntaxTree) :
    showTree f (.inl .json) t = (showTree f (.inl .xml) t).bind jsonOf := by
  unfold showTree
  cases elementOfTree f t with
  | error m => rfl
  | ok n => exact showElement_json n

/-- A file in JSON is the file in XML, converted. -/
lemma parseFile_json (d : Disk) (f : NodeFilter) (name : String) (path : Path) :
    (parseFile d f (.inl .json) name path).result =
      (parseFile d f (.inl .xml) name path).result.bind jsonOf := by
  unfold parseFile
  cases elementOfFile d f name path with
  | error e => rfl
  | ok n => exact showElement_json n

/-- A project in JSON is the project in XML, converted. -/
lemma parseFolder_json (d : Disk) (f : NodeFilter) (project : Path) :
    (parseFolder d f (.inl .json) project).result =
      (parseFolder d f (.inl .xml) project).result.bind jsonOf := by
  unfold parseFolder
  cases collect d project [] with
  | error e => rfl
  | ok sources =>
    simp only
    cases (elementsOfSources d f sources).result with
    | error e => rfl
    | ok elements => exact showElement_json (folderElement elements)

/-- **JSON does not depend on layout.** A document has the JSON that it has after being laid out,
and is accepted if and only if it can be laid out. So a source, a file, a project or a request in
JSON is the JSON of the same in XML, and fails in the same way. -/
theorem json_eq_jsonOf_xml :
    (∀ (text : String) (n m : Int),
      (formatXml text n).bind (fun laid => xmlToJson laid m) = xmlToJson text m) ∧
    (∀ (f : NodeFilter) (source : String),
      parseString f (.inl .json) source = (parseString f (.inl .xml) source).bind jsonOf) ∧
    (∀ (d : Disk) (f : NodeFilter) (name : String) (path : Path),
      (parseFile d f (.inl .json) name path).result =
        (parseFile d f (.inl .xml) name path).result.bind jsonOf) ∧
    (∀ (d : Disk) (f : NodeFilter) (project : Path),
      (parseFolder d f (.inl .json) project).result =
        (parseFolder d f (.inl .xml) project).result.bind jsonOf) ∧
    (∀ (d : Disk) (f : NodeFilter) (r : Request),
      (extract d f { r with representation := .json }).result =
        (extract d f { r with representation := .xml }).result.bind jsonOf) := by
  refine ⟨formatXml_bind_xmlToJson, fun f source => showTree_json f (Java.parse source),
    parseFile_json, parseFolder_json, fun d f r => ?_⟩
  unfold extract
  cases r.target with
  | project => exact parseFolder_json d f r.path
  | file => exact parseFile_json d f r.path.text r.path

end JavaTree
