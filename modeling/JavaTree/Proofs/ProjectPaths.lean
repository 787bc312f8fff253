import Mathlib.Data.List.TakeDrop
import JavaTree.Proofs.Extraction
import JavaTree.Proofs.Json.Contributions
import JavaTree.Proofs.Json.Reading
import JavaTree.Proofs.Syntax.Json

/-!
# Paths identify the files of a project

The document of a project shows the path of each of its files.  What is read back from it are the
paths of the collected files in the project, in their order.  In JSON the blanks at the start of a
path are lost, as they are of every text.

## Main definitions

* `Xml.Node.filePaths`, `Json.filePaths?` — the paths that a document in XML or JSON shows.

## Main results

* `Xml.SameElement.filePaths_eq` — the paths in the XML of a project.
* `filePaths?_document` — the paths in its JSON.
* `nodup_relativePath` — no two collected files have the same path in the project.
* `parseFolder_paths` — all of this for what comes out when a project is parsed.
-/

namespace JavaTree

/-! ## The paths of collected files -/

/-- The name of a source file ends in a letter.

**Proof sketch.** The suffix in small letters is that of source files, so the last character of the
name is a letter. -/
lemma endsSolid_of_isSource {name : String} (h : isSource name = true) :
    EndsSolid name.toList := by
  have hlower : (Path.suffixOf name.toList).map Char.toLower = ".java".toList := by
    have htext := congrArg String.toList (beq_iff_eq.1 h)
    rwa [toList_toLower, String.toList_ofList] at htext
  have hspan : name.toList.reverse =
      (name.toList.reverse.span (· != '.')).1 ++ (name.toList.reverse.span (· != '.')).2 := by
    simp [List.span_eq_takeWhile_dropWhile]
  unfold Path.suffixOf at hlower
  split at hlower
  · rename_i after before hafter
    rw [hafter] at hspan
    split at hlower
    · cases hlower
    · -- the letters after the point, the last one first
      have hletters : after.map Char.toLower = ['a', 'v', 'a', 'j'] := by
        have hlower := (List.cons.inj hlower).2
        rw [List.map_reverse] at hlower
        rw [← List.reverse_reverse (after.map Char.toLower), hlower]
        rfl
      obtain ⟨c, cs, rfl, hc, -⟩ := List.map_eq_cons_iff.1 hletters
      have hname : name.toList = (cs ++ '.' :: before).reverse ++ [c] := by
        simpa using congrArg List.reverse hspan
      rw [hname]
      exact endsSolid_concat _ (not_isBlank_of_isAlphanum (toLower_isAlphanum (by rw [hc]; rfl)))
  · cases hlower

/-- A path ends as its last part does. -/
lemma endsSolid_text {parts : List String} (hne : parts ≠ [])
    (h : EndsSolid (parts.getLast hne).toList) : EndsSolid (Path.mk .here parts).text.toList := by
  rw [Path.toList_text hne]
  induction parts with
  | nil => exact absurd rfl hne
  | cons part parts ih =>
    cases parts with
    | nil => simpa using h
    | cons next parts =>
      rw [List.map_cons, List.map_cons, List.intercalate_cons_cons]
      exact (ih (List.cons_ne_nil _ _) h).append _

section

variable {d : Disk} {project : Path} {excluded : List String} {sources : List SourceFile}

/-- **No two collected files have the same path in the project.**

**Proof sketch.** The parts of each file can be read off its path again, and they are distinct. -/
theorem nodup_relativePath (hd : d.top.WellFormed)
    (hsources : collect d project excluded = .ok sources) :
    (sources.map (·.relativePath)).Nodup := by
  obtain ⟨es, hentry, rfl⟩ := exists_of_collect_eq_ok hsources
  have hwell := Disk.wellFormed_of_entry? hd hentry
  -- the parts can be read off the text of a path, so that different parts have different texts
  have hread : ∀ parts ∈ sourceParts excluded (.folder es),
      Path.ofString (Path.mk .here parts).text = ⟨.here, parts⟩ := by
    intro parts hparts
    obtain ⟨⟨content, hfile⟩, -, -⟩ := (mem_sourceParts_iff hwell).1 hparts
    have hnames := FileTree.isEntryName_of_get? hwell hfile
    refine Path.ofString_text ?_ fun p hp => (hnames p hp).toIsPart
    rintro rfl
    cases hfile
  rw [List.map_map]
  refine (nodup_sourceParts hwell).map_on fun as has bs hbs heq => ?_
  have hpaths := congrArg Path.ofString heq
  simp only [Function.comp_apply, SourceFile.ofParts, hread as has, hread bs hbs] at hpaths
  exact congrArg Path.parts hpaths

/-- The path of a collected file has blanks at its start at most. -/
lemma trim_relativePath (hsources : collect d project excluded = .ok sources) :
    ∀ s ∈ sources, trim s.relativePath = String.ofList (trimStart s.relativePath.toList) := by
  obtain ⟨es, -, rfl⟩ := exists_of_collect_eq_ok hsources
  intro s hs
  obtain ⟨parts, hparts, rfl⟩ := List.mem_map.1 hs
  have hsource : isSource (parts.getLast?.getD "") = true := by
    have hcollected := (List.mem_filter.1 (List.mem_mergeSort.1 hparts)).2
    exact (Bool.and_eq_true_iff.1 hcollected).1
  have hne : parts ≠ [] := by
    rintro rfl
    revert hsource
    decide +kernel
  rw [List.getLast?_eq_some_getLast hne, Option.getD_some] at hsource
  exact congrArg String.ofList (endsSolid_text hne (endsSolid_of_isSource hsource)).trimChars_eq

end

/-! ## The paths that are shown -/

namespace Xml.Node

/-- The children of an element that are elements with a given name. -/
def named (name : String) : Node → List Node
  | element _ _ children _ => children.filter fun n => n.isElement && n.localName == name
  | _ => []

/-- The paths that the document of a project shows: the texts of `folder/file/path`. -/
def filePaths (root : Node) : List String :=
  if root.localName == "folder" then
    ((root.named "file").flatMap (named "path")).map fun n => n.text.getD ""
  else []

end Xml.Node

namespace Json

/-- The value under a key of an object. -/
def entry? (key : String) : Json → Option Json
  | object entries => entries.lookup key
  | _ => none

/-- The path that the value of a file shows. -/
def filePath? (file : Json) : Option String :=
  match file.entry? "path" with
  | some (text s) => some s
  | _ => none

/-- The paths that the value of a project shows under `folder.file.path`.  For a project without
files there is no `file`; a single file stands there itself, and several stand there in a list. -/
def filePaths? (v : Json) : Option (List String) :=
  (v.entry? "folder").bind fun folder =>
    match folder.entry? "file" with
    | none => some []
    | some (list files) => if 2 ≤ files.length then files.mapM filePath? else none
    | some file => (filePath? file).map fun path => [path]

end Json

/-! ## In XML -/

section

variable {n m tree : Xml.Node} {path : String} {paths : List String} {files ms : List Xml.Node}

/-- Elements of files with given paths. -/
abbrev FileElements (paths : List String) (files : List Xml.Node) : Prop :=
  List.Forall₂ (fun path n => ∃ tree, n = fileElement path tree) paths files

/-- The element of a tree holds no blanks between its nodes. -/
lemma SyntaxTree.sameElement_build (f : NodeFilter) (t : SyntaxTree) :
    Xml.SameElement (t.build f) (t.build f) := by
  rw [SyntaxTree.build_eq_toElement]
  exact SyntaxTree.sameElement_toElement f t

/-- What can be written is shown in XML such that it can be read back, and in JSON as its value. -/
lemma Xml.Node.exists_showElement (hn : n.Readable []) (he : n.isElement = true)
    (ht : n.tail = none) (hsame : Xml.SameElement n n) : ∃ xml root,
      showElement (.inl .xml) n = .ok xml ∧ Xml.parse? xml = some root ∧ Xml.SameElement n root ∧
      showElement (.inl .json) n = .ok (n.document.render defaultIndent) := by
  obtain ⟨raw, hraw, hrereadRaw⟩ := Xml.Node.exists_parse?_render hn he ht
  obtain ⟨hrawReadable, helement, htail⟩ := Xml.readable_of_parse? hraw
  obtain ⟨root, hroot, hreread⟩ :=
    Xml.Node.exists_parse?_format hrawReadable helement htail defaultIndent
  refine ⟨raw.format defaultIndent, root, ?_, hroot, ?_, ?_⟩
  · simp only [showElement, convert, Representation.show?, formatXml, hraw, Option.map_some]
    rfl
  · exact ((hsame.reread hrereadRaw).layout (indentation defaultIndent) 0).reread hreread
  · simp only [showElement, convert, Representation.show?, xmlToJson, hraw, Option.map_some,
      hrereadRaw.document_eq]
    rfl

/-- The element of a file shows its path. -/
lemma Xml.SameElement.path_eq (h : Xml.SameElement (fileElement path tree) m) :
    (m.isElement && m.localName == "file") = true ∧
      (m.named "path").map (fun n => n.text.getD "") = [path] := by
  cases h with
  | element _ hall =>
    cases hall with
    | cons hpath hrest =>
      cases hrest with
      | cons hast hnil =>
        cases hnil
        cases hpath with
        | element htext _ =>
          cases hast
          have htext := htext rfl
          exact ⟨rfl, by
            simpa [Xml.Node.named, Xml.Node.isElement, Xml.Node.localName, Xml.Node.text]
              using htext⟩

/-- The elements of files show their paths, in order. -/
lemma Xml.SameElements.paths_eq (hfiles : FileElements paths files)
    (h : Xml.SameElements files ms) :
    (∀ m ∈ ms, (m.isElement && m.localName == "file") = true) ∧
      (ms.flatMap (Xml.Node.named "path")).map (fun n => n.text.getD "") = paths := by
  induction hfiles generalizing ms with
  | nil =>
    cases h
    exact ⟨List.forall_mem_nil _, rfl⟩
  | cons hfile _ ih =>
    obtain ⟨tree, rfl⟩ := hfile
    cases h with
    | cons h hs =>
      obtain ⟨hname, hpath⟩ := h.path_eq
      obtain ⟨hnames, hpaths⟩ := ih hs
      refine ⟨List.forall_mem_cons.2 ⟨hname, hnames⟩, ?_⟩
      rw [List.flatMap_cons, List.map_append, hpath, hpaths]
      rfl

/-- **The paths in the XML of a project** are those of its files, in order. -/
theorem Xml.SameElement.filePaths_eq (hfiles : FileElements paths files)
    (h : Xml.SameElement (.parent "folder" files) m) : m.filePaths = paths := by
  cases h with
  | element _ hall =>
    obtain ⟨hnames, hpaths⟩ := hall.paths_eq hfiles
    rw [Xml.Node.filePaths, if_pos (by rfl), Xml.Node.named, List.filter_eq_self.2 hnames, hpaths]

/-! ## In JSON -/

/-- The value of a file is its path without the blanks around it, and its tree. -/
lemma value_fileElement (path : String) (tree : Xml.Node) :
    (fileElement path tree).value =
      .object [("path", .text (trim path)), ("ast", (Xml.Node.parent "ast" [tree]).value)] := by
  have hitems : Xml.Node.childItems [.leaf "path" path, .parent "ast" [tree]] =
      [("path", .text (trim path)), ("ast", (Xml.Node.parent "ast" [tree]).value)] := by
    rw [Xml.Node.childItems_cons, Xml.Node.childItems_cons]
    simp [Xml.Node.leaf, Xml.Node.parent, Xml.Node.isElement, Xml.Node.localName, Xml.Node.tail,
      Xml.textItem_none, Xml.Node.childItems]
    rfl
  rw [fileElement, Xml.Node.parent, Xml.Node.value, hitems, Xml.textItem_none]
  rfl

/-- The elements of files contribute their values under one name. -/
lemma childItems_files (hfiles : FileElements paths files) :
    Xml.Node.childItems files = (files.map Xml.Node.value).map fun v => ("file", v) := by
  induction hfiles with
  | nil => rfl
  | cons hfile _ ih =>
    obtain ⟨tree, rfl⟩ := hfile
    rw [Xml.Node.childItems_cons, ih]
    simp [fileElement, Xml.Node.parent, Xml.Node.isElement, Xml.Node.localName, Xml.Node.tail,
      Xml.textItem_none]

/-- The values of file elements give back the paths, trimmed as texts are. -/
lemma mapM_filePath? (hfiles : FileElements paths files) :
    (files.map Xml.Node.value).mapM Json.filePath? = some (paths.map trim) := by
  induction hfiles with
  | nil => rfl
  | cons hfile _ ih =>
    obtain ⟨tree, rfl⟩ := hfile
    rw [List.map_cons, List.mapM_cons, ih, value_fileElement]
    rfl

/-- The value of a project has the values of its files in one entry, if there are any. -/
lemma value_folder (hfiles : FileElements paths files) (hne : files ≠ []) :
    (Xml.Node.parent "folder" files).value =
      .object [("file", Json.bundle (files.map Xml.Node.value))] := by
  have hany : files.any Xml.Node.isElement = true := by
    cases hfiles with
    | nil => exact absurd rfl hne
    | cons hfile _ =>
      obtain ⟨tree, rfl⟩ := hfile
      rfl
  have hlists : ∀ v ∈ files.map Xml.Node.value, v.isList = false :=
    List.forall_mem_map.2 fun n _ => n.isList_value
  have hcollect := Json.collect_of_one_key "file" (by simpa using hne) hlists
  rw [Xml.Node.parent, Xml.Node.value, hany, childItems_files hfiles, Xml.textItem_none]
  simpa [Xml.attributeItems] using hcollect

/-- **The paths in the JSON of a project** are those of its files without the blanks around them, in
order.

**Proof sketch.** By the number of files: none, one that stands by itself, or several that stand in
a list. -/
theorem filePaths?_document (hfiles : FileElements paths files) :
    (Xml.Node.parent "folder" files).document.filePaths? = some (paths.map trim) := by
  have hpaths := mapM_filePath? hfiles
  have hdocument : (Xml.Node.parent "folder" files).document.entry? "folder" =
      some (Xml.Node.parent "folder" files).value := rfl
  rw [Json.filePaths?, hdocument, Option.bind_some]
  -- no file, one file, which stands by itself, and several ones, which stand in a list
  cases hfiles with
  | nil => rfl
  | cons hfile hrest =>
    rw [value_folder (.cons hfile hrest) (List.cons_ne_nil _ _)]
    cases hrest with
    | nil =>
      obtain ⟨tree, rfl⟩ := hfile
      rw [List.map_singleton, value_fileElement]
      rfl
    | cons hfile' hrest => exact hpaths

end

/-! ## Projects -/

section

variable {d : Disk} {f : NodeFilter} {sources : List SourceFile}

/-- The elements made of source files hold the paths of these. -/
lemma fileElements_zipWith {trees : List Xml.Node}
    (htrees : List.Forall₂ (fun s t => elementOfFile d f s.path.text s.path = .ok t)
      sources trees) :
    FileElements (sources.map (·.relativePath))
      (List.zipWith (fun s t => fileElement s.relativePath t) sources trees) := by
  induction htrees with
  | nil => exact .nil
  | cons _ _ ih => exact .cons ⟨_, rfl⟩ ih

/-- The element of a project is the same as itself: it has no attributes. -/
lemma sameElement_folder {trees : List Xml.Node}
    (htrees : List.Forall₂ (fun s t => elementOfFile d f s.path.text s.path = .ok t)
      sources trees) :
    Xml.SameElement
      (.parent "folder" (List.zipWith (fun s t => fileElement s.relativePath t) sources trees))
      (.parent "folder"
        (List.zipWith (fun s t => fileElement s.relativePath t) sources trees)) := by
  refine .element (fun _ => rfl) ?_
  induction htrees with
  | nil => exact .nil
  | cons htree _ ih =>
    obtain ⟨source, -, rfl⟩ := exists_of_elementOfFile_eq_ok htree
    have htree := SyntaxTree.sameElement_build f (Java.parse source)
    refine .cons (.element (fun _ => rfl) (.cons ?_ (.cons ?_ .nil))) ih
    · exact .element (fun _ => rfl) .nil
    · exact .element (fun _ => rfl) (.cons htree .nil)

/-- What is shown of a project whose files have elements.

**Proof sketch.** The element of the project is readable, so it is shown in both representations;
what is read again has the same files, and with them the same paths. -/
lemma exists_parseFolder {project : Path} {files : List Xml.Node}
    (hsources : collect d project [] = .ok sources)
    (hfiles : (elementsOfSources d f sources).result = .ok files) : ∃ xml root,
      (parseFolder d f (.inl .xml) project).result = .ok xml ∧ Xml.parse? xml = some root ∧
      root.filePaths = sources.map (·.relativePath) ∧ ∃ json v,
      (parseFolder d f (.inl .json) project).result = .ok json ∧ Json.read? json = some v ∧
      v.filePaths? = some (sources.map fun s => trim s.relativePath) := by
  obtain ⟨hwritable, trees, htrees, rfl⟩ := exists_trees_of_elementsOfSources hfiles
  have hpaths := fileElements_zipWith htrees
  obtain ⟨xml, root, hxml, hroot, hsameRoot, hjson⟩ :=
    Xml.Node.exists_showElement (readable_folder htrees hwritable) rfl rfl
      (sameElement_folder htrees)
  refine ⟨xml, root, ?_, hroot, hsameRoot.filePaths_eq hpaths,
    (Xml.Node.parent "folder" (List.zipWith (fun s t => fileElement s.relativePath t) sources
      trees)).document.render defaultIndent, _, ?_, Json.read?_render defaultIndent _, ?_⟩
  · rw [parseFolder_result _ hsources, hfiles]
    exact hxml
  · rw [parseFolder_result _ hsources, hfiles]
    exact hjson
  · rw [filePaths?_document hpaths, List.map_map]
    rfl

/-- A project that can be parsed has elements for its collected files. -/
lemma exists_elements_of_parseFolder {project : Path} {r : Representation} {out : String}
    (hout : (parseFolder d f (.inl r) project).result = .ok out) : ∃ sources files,
      collect d project [] = .ok sources ∧ (elementsOfSources d f sources).result = .ok files := by
  cases hsources : collect d project [] with
  | error e =>
    rw [parseFolder, hsources] at hout
    cases hout
  | ok sources =>
    rw [parseFolder_result r hsources] at hout
    cases hfiles : (elementsOfSources d f sources).result with
    | error e =>
      rw [hfiles] at hout
      cases hout
    | ok files => exact ⟨sources, files, rfl, hfiles⟩

/-- **Paths identify the files of a project.**  If a project can be parsed, then the paths that its
XML shows are those of the collected files in their order, and no two of them are the same.  Its
JSON shows them without the blanks at their start, so that they are kept if and only if none of them
starts with a blank. -/
theorem parseFolder_paths (d : Disk) (hd : d.top.WellFormed) (f : NodeFilter) (project : Path)
    (r : Representation) (out : String)
    (hout : (parseFolder d f (.inl r) project).result = .ok out) :
    ∃ sources, collect d project [] = .ok sources ∧ (sources.map (·.relativePath)).Nodup ∧
      (∃ xml root, (parseFolder d f (.inl .xml) project).result = .ok xml ∧
        Xml.parse? xml = some root ∧ root.filePaths = sources.map (·.relativePath)) ∧
      ∃ json v, (parseFolder d f (.inl .json) project).result = .ok json ∧
        Json.read? json = some v ∧
        v.filePaths? =
          some (sources.map fun s => String.ofList (trimStart s.relativePath.toList)) ∧
        (v.filePaths? = some (sources.map (·.relativePath)) ↔
          ∀ s ∈ sources, ∀ c ∈ s.relativePath.toList.head?, isBlank c = false) := by
  obtain ⟨sources, files, hsources, hfiles⟩ := exists_elements_of_parseFolder hout
  obtain ⟨xml, root, hxml, hroot, hpaths, json, v, hjson, hread, htrimmed⟩ :=
    exists_parseFolder hsources hfiles
  rw [List.map_congr_left (trim_relativePath hsources)] at htrimmed
  refine ⟨sources, hsources, nodup_relativePath hd hsources, ⟨xml, root, hxml, hroot, hpaths⟩,
    json, v, hjson, hread, htrimmed, ?_⟩
  rw [htrimmed, Option.some_inj, List.map_inj_left]
  refine forall₂_congr fun s _ => ?_
  rw [← String.toList_inj, String.toList_ofList, trimStart_eq_self_iff]

/-- A project of empty files, to which the given parts lead, can be parsed if the paths of its files
can be written. -/
lemma exists_elementsOfSources_of_empty (f : NodeFilter) {root : Path} {places : List (List String)}
    (hempty : ∀ parts ∈ places, d.content? (SourceFile.ofParts root parts).path = some .empty)
    (hwritable : ∀ parts ∈ places, (Path.mk .here parts).text.toList.all Xml.isChar = true) :
    ∃ files, (elementsOfSources d f (places.map (SourceFile.ofParts root))).result = .ok files := by
  have htrees : ∀ s ∈ places.map (SourceFile.ofParts root),
      ∃ t, elementOfFile d f s.path.text s.path = .ok t :=
    List.forall_mem_map.2 fun parts hparts => ⟨_, elementOfFile_of_empty (hempty parts hparts)⟩
  obtain ⟨trees, htrees⟩ := exists_trees htrees
  refine ⟨_, elementsOfSources_eq_ok htrees (List.forall_mem_map.2 fun parts hparts => ?_)⟩
  exact List.all_eq_true.1 (hwritable parts hparts)

end

/-! ## Blanks in the names of files -/

/-- A project of two empty files whose names differ in a blank only. -/
def twinProject : List (String × FileTree) := [(" A.java", .file .empty), ("A.java", .file .empty)]

/-- A disk that holds the project. -/
def twinDisk : Disk := ⟨.folder twinProject, []⟩

/-- In JSON the twin files have the same path. -/
theorem filePaths?_twinProject :
    twinDisk.top.WellFormed ∧ ∃ sources json v,
      collect twinDisk ⟨.here, []⟩ [] = .ok sources ∧
      sources.map (·.relativePath) = [" A.java", "A.java"] ∧
      (parseFolder twinDisk ⟨[], [], []⟩ (.inl .json) ⟨.here, []⟩).result = .ok json ∧
      Json.read? json = some v ∧ v.filePaths? = some ["A.java", "A.java"] := by
  have hentry : twinDisk.entry? ⟨.here, []⟩ = some (.folder twinProject) := rfl
  have hsources := collect_eq hentry []
  have hplaces : sourceParts [] (.folder twinProject) = [[" A.java"], ["A.java"]] :=
    (List.mergeSort_of_pairwise (by decide +kernel)).trans (by decide +kernel)
  rw [hplaces] at hsources
  obtain ⟨files, hfiles⟩ := exists_elementsOfSources_of_empty ⟨[], [], []⟩
    (by decide +kernel : ∀ parts ∈ [[" A.java"], ["A.java"]],
      twinDisk.content? (SourceFile.ofParts ⟨.root, []⟩ parts).path = some .empty)
    (by decide +kernel)
  obtain ⟨-, -, -, -, -, json, v, hjson, hread, hpaths⟩ := exists_parseFolder hsources hfiles
  refine ⟨by decide +kernel, _, json, v, hsources, by decide +kernel, hjson, hread, ?_⟩
  rw [hpaths]
  decide +kernel

/-- A project of empty files in whose paths there are blanks, marks and ends of lines. -/
def spottedProject : List (String × FileTree) := [
  ("&\r\n", .folder [(" <x>.JAVA", .file .empty)]),
  ("A.java", .file .empty),
  ("\u3000b.java", .file .empty)]

/-- A disk that holds the project. -/
def spottedDisk : Disk := ⟨.folder spottedProject, []⟩

/-- In XML the spotted project has all its paths, and in JSON they are without blanks at their
start. -/
theorem parseFolder_paths_spottedProject :
    spottedDisk.top.WellFormed ∧ ∃ xml root json v,
      (parseFolder spottedDisk ⟨[], [], []⟩ (.inl .xml) ⟨.here, []⟩).result = .ok xml ∧
      Xml.parse? xml = some root ∧
      root.filePaths = ["&\r\n/ <x>.JAVA", "A.java", "\u3000b.java"] ∧
      (parseFolder spottedDisk ⟨[], [], []⟩ (.inl .json) ⟨.here, []⟩).result = .ok json ∧
      Json.read? json = some v ∧
      v.filePaths? = some ["&\r\n/ <x>.JAVA", "A.java", "b.java"] := by
  have hwell : spottedDisk.top.WellFormed := by decide +kernel
  have hentry : spottedDisk.entry? ⟨.here, []⟩ = some (.folder spottedProject) := rfl
  have hsources := collect_eq hentry []
  have hplaces : sourceParts [] (.folder spottedProject) =
      [["&\r\n", " <x>.JAVA"], ["A.java"], ["\u3000b.java"]] :=
    (List.mergeSort_of_pairwise (by decide +kernel)).trans (by decide +kernel)
  rw [hplaces] at hsources
  obtain ⟨files, hfiles⟩ := exists_elementsOfSources_of_empty ⟨[], [], []⟩
    (by decide +kernel : ∀ parts ∈ [["&\r\n", " <x>.JAVA"], ["A.java"], ["\u3000b.java"]],
      spottedDisk.content? (SourceFile.ofParts ⟨.root, []⟩ parts).path = some .empty)
    (by decide +kernel)
  obtain ⟨xml, -, hxml, -⟩ := exists_parseFolder hsources hfiles
  obtain ⟨_, hcollect, -, ⟨_, root, hxml', hroot, hpaths⟩, json, v, hjson, hread, htrimmed, -⟩ :=
    parseFolder_paths spottedDisk hwell ⟨[], [], []⟩ ⟨.here, []⟩ .xml xml hxml
  -- the files and the document that come with the paths are those known before
  obtain rfl := Except.ok.inj (hsources.symm.trans hcollect)
  obtain rfl := Except.ok.inj (hxml.symm.trans hxml')
  refine ⟨hwell, xml, root, json, v, hxml, hroot, ?_, hjson, hread, ?_⟩
  · rw [hpaths]
    decide +kernel
  · rw [htrimmed]
    decide +kernel

end JavaTree
