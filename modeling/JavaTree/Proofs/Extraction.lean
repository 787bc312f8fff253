import JavaTree.Proofs.Collection
import JavaTree.Proofs.Java.Parse
import JavaTree.Proofs.Results

/-!
# A project is what its files are

The trees of a project are those that its files have each by itself, and a mistake in a file is the
mistake of the project.  This holds as long as the paths of files can stand in a document: no file
is refused for its path when it is parsed by itself, but a project is.

## Main definitions

* `SourceFile.parsed` — what comes out when a collected file is parsed by itself.
* `FollowsFiles` — the result of a project follows from those of its files.
* `ReachedWritable` — documents can hold the paths of all files that are reached.

## Main results

* `Xml.Node.exists_convert` — whatever can be written is shown in every representation.
* `exists_parseFile_iff` — a file is shown if its source has no mistake.
* `readable_folder` — the element of a project can be written.
* `parseFolder_followsFiles_iff` — the result of a project follows from those of its files if and
  only if no file that is reached has a path with characters that a document cannot hold.
-/

namespace JavaTree

/-! ## Elements in a representation -/

/-- **Whatever can be written is shown in every representation.** -/
theorem Xml.Node.exists_convert {n : Xml.Node} (hn : n.Readable []) (he : n.isElement = true)
    (ht : n.tail = none) (r : Representation) : ∃ out, convert n.render (.inl r) = .ok out := by
  obtain ⟨m, hm, -⟩ := Xml.Node.exists_parse?_render hn he ht
  cases r with
  | xml =>
    refine ⟨m.format defaultIndent, ?_⟩
    simp only [convert, Representation.show?, formatXml, hm, Option.map_some]
  | json =>
    refine ⟨m.document.render defaultIndent, ?_⟩
    simp only [convert, Representation.show?, xmlToJson, hm, Option.map_some]

/-! ## Files -/

section

variable {d : Disk} {f : NodeFilter} {name : String} {path : Path} {n : Xml.Node}
  {e : ExtractionError}

/-- A tree is made an element if and only if it is free of errors. -/
lemma elementOfTree_eq_ok_iff {t : SyntaxTree} :
    elementOfTree f t = .ok n ↔ t.hasError = false ∧ t.build f = n := by
  unfold elementOfTree
  cases t.hasError <;> simp

/-- An empty file has the element of the empty source. -/
lemma elementOfFile_of_empty (hempty : d.content? path = some .empty) :
    elementOfFile d f name path = .ok ((Java.parse "").build f) := by
  have hdecode : decodeSource .empty = "" := by decide +kernel
  have hread : readSource d path = .ok "" := by rw [readSource, hempty, ← hdecode]
  rw [elementOfFile, hread, Except.bind,
    elementOfTree_eq_ok_iff.2 ⟨Java.hasError_parse_empty, rfl⟩]
  rfl

/-- The element of a file is that of a source without mistakes. -/
lemma exists_of_elementOfFile_eq_ok (h : elementOfFile d f name path = .ok n) :
    ∃ source, (Java.parse source).hasError = false ∧ (Java.parse source).build f = n := by
  rw [elementOfFile] at h
  obtain ⟨source, -, htree⟩ := bind_eq_ok_iff.1 h
  exact ⟨source, elementOfTree_eq_ok_iff.1 (mapError_eq_ok_iff.1 htree)⟩

/-- A file without element is not there, or it has a mistake. -/
lemma cases_of_elementOfFile_eq_error (h : elementOfFile d f name path = .error e) :
    e = .noFile path ∨ ∃ m, e = .syntaxMistake (some name) m := by
  rw [elementOfFile] at h
  rcases bind_eq_error_iff.1 h with hread | ⟨source, -, htree⟩
  · unfold readSource at hread
    cases hcontent : d.content? path with
    | none =>
      rw [hcontent] at hread
      exact .inl (Except.error.inj hread).symm
    | some content =>
      rw [hcontent] at hread
      cases hread
  · obtain ⟨m, -, rfl⟩ := mapError_eq_error_iff.1 htree
    exact .inr ⟨m, rfl⟩

/-- The element of a tree with nameable kinds can be written and read. -/
lemma SyntaxTree.readable_build {t : SyntaxTree} (h : t.Nameable) (f : NodeFilter) :
    (t.build f).Readable [] ∧ (t.build f).isElement = true ∧ (t.build f).tail = none := by
  rw [SyntaxTree.build_eq_toElement]
  exact ⟨SyntaxTree.readable_toElement f t h, SyntaxTree.isElement_toElement f t⟩

/-- The element of a file can be written. -/
lemma readable_of_elementOfFile (h : elementOfFile d f name path = .ok n) :
    n.Readable [] ∧ n.isElement = true ∧ n.tail = none := by
  obtain ⟨source, herror, rfl⟩ := exists_of_elementOfFile_eq_ok h
  exact SyntaxTree.readable_build (Java.nameable_parse source herror) f

/-- A file is shown if it has an element, for this can be written. -/
lemma exists_parseFile_iff {r : Representation} :
    (∃ out, (parseFile d f (.inl r) name path).result = .ok out) ↔
      ∃ n, elementOfFile d f name path = .ok n := by
  unfold parseFile
  cases hfile : elementOfFile d f name path with
  | error e => simp
  | ok n =>
    obtain ⟨hreadable, helement, htail⟩ := readable_of_elementOfFile hfile
    obtain ⟨out, hout⟩ := Xml.Node.exists_convert hreadable helement htail r
    simp [showElement, hout]

/-- A file is refused in either representation because no element can be made of it. -/
lemma parseFile_eq_error_iff {r : Representation} :
    (parseFile d f (.inl r) name path).result = .error e ↔
      elementOfFile d f name path = .error e := by
  cases hfile : elementOfFile d f name path with
  | error e' => simp [parseFile, hfile]
  | ok n =>
    obtain ⟨out, hout⟩ := exists_parseFile_iff (r := r).2 ⟨n, hfile⟩
    simp [hout]

end

/-! ## Projects -/

section

variable {d : Disk} {f : NodeFilter} {s : SourceFile} {before after sources : List SourceFile}
  {trees : List Xml.Node} {e : ExtractionError}

/-- What comes out when a collected file is parsed by itself. -/
def SourceFile.parsed (s : SourceFile) (d : Disk) (f : NodeFilter) (r : Representation) :
    Except ExtractionError String :=
  (parseFile d f (.inl r) s.path.text s.path).result

/-- A collected file whose path a document can hold. -/
def SourceFile.Writable (s : SourceFile) : Prop := Xml.AllChars s.relativePath.toList

/-- The element of a source file whose path can be written holds its path and its tree. -/
lemma elementOfSource_eq_ok {t : Xml.Node} (ht : elementOfFile d f s.path.text s.path = .ok t)
    (hs : s.Writable) : elementOfSource d f s = .ok (fileElement s.relativePath t) := by
  have hall : s.relativePath.toList.all Xml.isChar = true := List.all_eq_true.2 hs
  simp only [elementOfSource, ht, hall, if_true]

/-- A source file whose path cannot be written is refused, even when it has been parsed. -/
lemma elementOfSource_eq_unwritable {t : Xml.Node}
    (ht : elementOfFile d f s.path.text s.path = .ok t) (hs : ¬ s.Writable) :
    elementOfSource d f s = .error .unwritablePath := by
  have hall : ¬ s.relativePath.toList.all Xml.isChar = true := fun h => hs (List.all_eq_true.1 h)
  simp only [elementOfSource, ht, hall]
  rfl

/-- A source file has an element if and only if it can be parsed and its path can be written. -/
lemma elementOfSource_eq_ok_iff {n : Xml.Node} : elementOfSource d f s = .ok n ↔
    s.Writable ∧ ∃ t, elementOfFile d f s.path.text s.path = .ok t ∧
      n = fileElement s.relativePath t := by
  constructor
  · intro h
    cases ht : elementOfFile d f s.path.text s.path with
    | error e => simp [elementOfSource, ht] at h
    | ok t =>
      by_cases hs : s.Writable
      · rw [elementOfSource_eq_ok ht hs] at h
        exact ⟨hs, t, rfl, (Except.ok.inj h).symm⟩
      · rw [elementOfSource_eq_unwritable ht hs] at h
        cases h
  · rintro ⟨hs, t, ht, rfl⟩
    exact elementOfSource_eq_ok ht hs

/-- The elements of files all of which can be parsed and have paths that can be written. -/
lemma elementsOfSources_eq_ok
    (htrees : List.Forall₂ (fun s t => elementOfFile d f s.path.text s.path = .ok t) sources trees)
    (hwritable : ∀ s ∈ sources, s.Writable) :
    (elementsOfSources d f sources).result =
      .ok (List.zipWith (fun s t => fileElement s.relativePath t) sources trees) := by
  induction htrees with
  | nil => rfl
  | @cons s t ss ts ht _ ih =>
    obtain ⟨hs, hss⟩ := List.forall_mem_cons.1 hwritable
    simp only [elementsOfSources, elementOfSource_eq_ok ht hs, ih hss]
    rfl

/-- Elements of files come from files that can be parsed and have paths that can be written.

**Proof sketch.** Induction on the source files: the first one has an element only if it can be
parsed and its path can be written. -/
lemma exists_trees_of_elementsOfSources {files : List Xml.Node}
    (h : (elementsOfSources d f sources).result = .ok files) :
    (∀ s ∈ sources, s.Writable) ∧ ∃ trees,
      List.Forall₂ (fun s t => elementOfFile d f s.path.text s.path = .ok t) sources trees ∧
      files = List.zipWith (fun s t => fileElement s.relativePath t) sources trees := by
  induction sources generalizing files with
  | nil =>
    obtain rfl : [] = files := Except.ok.inj h
    exact ⟨List.forall_mem_nil _, [], .nil, rfl⟩
  | cons s ss ih =>
    rw [elementsOfSources] at h
    cases hs : elementOfSource d f s with
    | error e => simp [hs] at h
    | ok n =>
      obtain ⟨hwritable, t, ht, rfl⟩ := elementOfSource_eq_ok_iff.1 hs
      cases hss : (elementsOfSources d f ss).result with
      | error e => simp [hs, hss, Except.map] at h
      | ok ns =>
        obtain ⟨hall, ts, hts, rfl⟩ := ih hss
        refine ⟨List.forall_mem_cons.2 ⟨hwritable, hall⟩, t :: ts, .cons ht hts, ?_⟩
        simpa [hs, hss, Except.map] using h.symm

/-- The first file that gives no element stops the extraction. -/
lemma elementsOfSources_eq_error (after : List SourceFile)
    (hbefore : ∀ b ∈ before, ∃ n, elementOfSource d f b = .ok n)
    (hs : elementOfSource d f s = .error e) :
    (elementsOfSources d f (before ++ s :: after)).result = .error e := by
  induction before with
  | nil => simp only [List.nil_append, elementsOfSources, hs]
  | cons b bs ih =>
    obtain ⟨⟨n, hn⟩, hbs⟩ := List.forall_mem_cons.1 hbefore
    simp only [List.cons_append, elementsOfSources, hn, ih hbs]
    rfl

/-- **The element of a project can be written** if it is put together from files that can be parsed
and have paths that can be written.

**Proof sketch.** The element of a file is made of its path and its tree, under names that are
fixed; induction on the source files adds it to those of the others. -/
lemma readable_folder
    (htrees : List.Forall₂ (fun s t => elementOfFile d f s.path.text s.path = .ok t) sources trees)
    (hwritable : ∀ s ∈ sources, s.Writable) :
    (Xml.Node.parent "folder" (List.zipWith (fun s t => fileElement s.relativePath t) sources
      trees)).Readable [] := by
  have hfolder : Xml.IsName "folder" := by decide +kernel
  have hfile : Xml.IsName "file" := by decide +kernel
  have hpath : Xml.IsName "path" := by decide +kernel
  have hast : Xml.IsName "ast" := by decide +kernel
  refine ⟨Xml.Tag.readable_plain hfolder, Xml.validText_none, ?_, Xml.validText_none⟩
  induction htrees with
  | nil => trivial
  | @cons s t ss ts ht _ ih =>
    obtain ⟨hs, hss⟩ := List.forall_mem_cons.1 hwritable
    have htree : Xml.Node.Readable [] t := (readable_of_elementOfFile ht).1
    have hleaf : Xml.Node.Readable [] (.leaf "path" s.relativePath) :=
      ⟨Xml.Tag.readable_plain hpath, hs, trivial, Xml.validText_none⟩
    have hwrapped : Xml.Node.Readable [] (.parent "ast" [t]) :=
      ⟨Xml.Tag.readable_plain hast, Xml.validText_none, ⟨htree, trivial⟩, Xml.validText_none⟩
    have hentry : Xml.Node.Readable [] (fileElement s.relativePath t) :=
      ⟨Xml.Tag.readable_plain hfile, Xml.validText_none, ⟨hleaf, hwrapped, trivial⟩,
        Xml.validText_none⟩
    exact ⟨hentry, ih hss⟩

/-- The element of a folder holds the elements of its files. -/
lemma folderElement_eq (files : List Xml.Node) : folderElement files = .parent "folder" files := by
  cases files <;> rfl

/-- In a list not all of whose members have a property there is a first one that has it not. -/
lemma exists_first_not {α : Type} {p : α → Prop} {as : List α} (h : ¬ ∀ a ∈ as, p a) :
    ∃ before a after, as = before ++ a :: after ∧ (∀ b ∈ before, p b) ∧ ¬ p a := by
  induction as with
  | nil => exact absurd (List.forall_mem_nil p) h
  | cons a as ih =>
    by_cases ha : p a
    · have has : ¬ ∀ b ∈ as, p b := fun has => h (List.forall_mem_cons.2 ⟨ha, has⟩)
      obtain ⟨before, b, after, rfl, hbefore, hb⟩ := ih has
      exact ⟨a :: before, b, after, rfl, List.forall_mem_cons.2 ⟨ha, hbefore⟩, hb⟩
    · exact ⟨[], a, as, rfl, List.forall_mem_nil p, ha⟩

/-- Files all of which have a tree have a list of trees. -/
lemma exists_trees (h : ∀ s ∈ sources, ∃ t, elementOfFile d f s.path.text s.path = .ok t) :
    ∃ trees,
      List.Forall₂ (fun s t => elementOfFile d f s.path.text s.path = .ok t) sources trees := by
  induction sources with
  | nil => exact ⟨[], .nil⟩
  | cons s ss ih =>
    obtain ⟨⟨t, ht⟩, hss⟩ := List.forall_mem_cons.1 h
    obtain ⟨ts, hts⟩ := ih hss
    exact ⟨t :: ts, .cons ht hts⟩

/-- What has been reached of a list is in it. -/
lemma mem_of_mem_reached {b : SourceFile} (hb : b ∈ before ++ [s]) : b ∈ before ++ s :: after := by
  rw [List.append_cons]
  exact List.mem_append_left after hb

/-- A file with a path that no document can hold stops the extraction, if it is reached.

**Proof sketch.** Not all files up to this one have elements, so there is a first that has none. It
can be parsed, so its path cannot be written either. -/
lemma elementsOfSources_eq_unwritable (after : List SourceFile)
    (hparsed : ∀ b ∈ before ++ [s], ∃ t, elementOfFile d f b.path.text b.path = .ok t)
    (hs : ¬ s.Writable) :
    (elementsOfSources d f (before ++ s :: after)).result = .error .unwritablePath := by
  have hnot : ¬ ∀ b ∈ before ++ [s], ∃ n, elementOfSource d f b = .ok n := by
    intro hall
    obtain ⟨t, ht⟩ := hparsed s (List.mem_append_right _ (List.mem_singleton_self s))
    obtain ⟨n, hn⟩ := hall s (List.mem_append_right _ (List.mem_singleton_self s))
    rw [elementOfSource_eq_unwritable ht hs] at hn
    cases hn
  obtain ⟨first, b, rest, hsplit, hfirst, hb⟩ := exists_first_not hnot
  have hmem : b ∈ before ++ [s] := hsplit ▸ List.mem_append_right first List.mem_cons_self
  obtain ⟨t, ht⟩ := hparsed b hmem
  have hbunwritable : ¬ b.Writable := fun hwritable => hb ⟨_, elementOfSource_eq_ok ht hwritable⟩
  have hall : before ++ s :: after = first ++ b :: (rest ++ after) := by
    rw [List.append_cons, hsplit, List.append_assoc, List.cons_append]
  rw [hall]
  exact elementsOfSources_eq_error _ hfirst (elementOfSource_eq_unwritable ht hbunwritable)

/-- The path of every source file that is collected is absolute. -/
lemma isAbsolute_of_mem_collect {project : Path} (hsources : collect d project [] = .ok sources)
    (hs : s ∈ sources) : s.path.isAbsolute = true := by
  unfold collect at hsources
  simp only at hsources
  split at hsources
  · cases hsources
  · cases hsources
  · obtain rfl := Except.ok.inj hsources
    obtain ⟨parts, -, rfl⟩ := List.mem_map.1 hs
    exact Path.isAbsolute_under project rfl

/-! ## The result of a project -/

/-- **The result of a project follows from those of its files.**  If all files can be parsed, so can
the project, and its document has an element for each file, with the path of the file in the project
and its tree.  The first file that cannot be parsed stops the extraction with its error; that of a
mistake says where the file is. -/
structure FollowsFiles (d : Disk) (f : NodeFilter) (r : Representation) (sources : List SourceFile)
    (result : Except ExtractionError String) : Prop where
  complete : (∀ s ∈ sources, ∃ out, s.parsed d f r = .ok out) →
    ∃ trees out,
      List.Forall₂ (fun s t => elementOfFile d f s.path.text s.path = .ok t) sources trees ∧
      convert (Xml.Node.parent "folder" (List.zipWith (fun s t =>
        .parent "file" [.leaf "path" s.relativePath, .parent "ast" [t]]) sources trees)).render
        (.inl r) = .ok out ∧
      result = .ok out
  stopped : ∀ before s after e, sources = before ++ s :: after →
    (∀ b ∈ before, ∃ out, b.parsed d f r = .ok out) → s.parsed d f r = .error e →
    result = .error e ∧
    ∀ file m, e = .syntaxMistake file m →
      s.path.isAbsolute = true ∧ e.message = s.path.text ++ ": " ++ m.message

/-- All files that are reached when a project is parsed have paths that a document can hold. -/
def ReachedWritable (d : Disk) (f : NodeFilter) (r : Representation) (sources : List SourceFile) :
    Prop :=
  ∀ before s after, sources = before ++ s :: after →
    (∀ b ∈ before ++ [s], ∃ out, b.parsed d f r = .ok out) → s.Writable

/-- A project is parsed file by file and shown as a whole. -/
lemma parseFolder_result {project : Path} (r : Representation)
    (hsources : collect d project [] = .ok sources) :
    (parseFolder d f (.inl r) project).result =
      (elementsOfSources d f sources).result.bind fun files =>
        showElement (.inl r) (.parent "folder" files) := by
  unfold parseFolder
  simp only [hsources]
  cases (elementsOfSources d f sources).result with
  | error e => rfl
  | ok files =>
    simp only [folderElement_eq]
    rfl

variable {r : Representation}

/-- A source file can be parsed in a representation if and only if an element can be made of it. -/
lemma exists_parsed_iff : (∃ out, s.parsed d f r = .ok out) ↔
    ∃ t, elementOfFile d f s.path.text s.path = .ok t :=
  exists_parseFile_iff

/-- If all source files can be parsed, there are elements of all of them. -/
lemma exists_element_of_parsed (h : ∀ s ∈ sources, ∃ out, s.parsed d f r = .ok out) :
    ∀ s ∈ sources, ∃ t, elementOfFile d f s.path.text s.path = .ok t :=
  fun s hs => exists_parsed_iff.1 (h s hs)

/-- The error of a file is never that its path cannot be written. -/
lemma parsed_ne_unwritable : s.parsed d f r ≠ .error .unwritablePath := by
  intro h
  rcases cases_of_elementOfFile_eq_error (parseFile_eq_error_iff.1 h) with he | ⟨m, he⟩
  · cases he
  · cases he

/-- Where a mistake stops the extraction, the message says which file has it. -/
lemma message_of_parsed {project : Path} (hsources : collect d project [] = .ok sources)
    (hmem : s ∈ sources) {file : Option String} {m : SyntaxMistake}
    (hs : s.parsed d f r = .error (.syntaxMistake file m)) :
    s.path.isAbsolute = true ∧
      (ExtractionError.syntaxMistake file m).message = s.path.text ++ ": " ++ m.message := by
  refine ⟨isAbsolute_of_mem_collect hsources hmem, ?_⟩
  rcases cases_of_elementOfFile_eq_error (parseFile_eq_error_iff.1 hs) with he | ⟨m', he⟩
  · cases he
  · obtain ⟨rfl, rfl⟩ : file = some s.path.text ∧ m = m' := by simpa using he
    rfl

/-- If all files can be parsed, all of them are reached. -/
lemma ReachedWritable.forall_writable (h : ReachedWritable d f r sources)
    (hall : ∀ s ∈ sources, ∃ out, s.parsed d f r = .ok out) : ∀ s ∈ sources, s.Writable := by
  intro s hs
  obtain ⟨before, after, rfl⟩ := List.append_of_mem hs
  exact h before s after rfl fun b hb => hall b (mem_of_mem_reached hb)

/-- The files before the first one that cannot be parsed are reached, so they have elements. -/
lemma ReachedWritable.exists_elementOfSource (h : ReachedWritable d f r (before ++ s :: after))
    (hbefore : ∀ b ∈ before, ∃ out, b.parsed d f r = .ok out) :
    ∀ b ∈ before, ∃ n, elementOfSource d f b = .ok n := by
  intro b hb
  obtain ⟨t, ht⟩ := exists_element_of_parsed hbefore b hb
  obtain ⟨as, bs, rfl⟩ := List.append_of_mem hb
  have hsplit : as ++ b :: bs ++ s :: after = as ++ b :: (bs ++ s :: after) :=
    List.append_assoc as (b :: bs) (s :: after)
  have hwritable : b.Writable := h as b (bs ++ s :: after) hsplit fun c hc =>
    hbefore c (mem_of_mem_reached hc)
  exact ⟨_, elementOfSource_eq_ok ht hwritable⟩

/-- If no path stands in the way, the result of a project follows from those of its files.

**Proof sketch.** If all files can be parsed, their paths can be written, so the folder is readable
and can be converted. If a first file cannot, those before it have elements, and its own error is
the result. -/
lemma ReachedWritable.followsFiles {project : Path} (h : ReachedWritable d f r sources)
    (hsources : collect d project [] = .ok sources) :
    FollowsFiles d f r sources (parseFolder d f (.inl r) project).result where
  complete hall := by
    have hwritable := h.forall_writable hall
    obtain ⟨trees, htrees⟩ := exists_trees (exists_element_of_parsed hall)
    obtain ⟨out, hout⟩ := Xml.Node.exists_convert (readable_folder htrees hwritable) rfl rfl r
    refine ⟨trees, out, htrees, hout, ?_⟩
    rw [parseFolder_result r hsources, elementsOfSources_eq_ok htrees hwritable]
    exact mapError_eq_ok_iff.2 hout
  stopped before s after e hsplit hbefore hs := by
    subst hsplit
    have hsource : elementOfSource d f s = .error e := by
      simp only [elementOfSource, parseFile_eq_error_iff.1 hs]
    have hresult := elementsOfSources_eq_error after
      (h.exists_elementOfSource hbefore) hsource
    refine ⟨?_, ?_⟩
    · rw [parseFolder_result r hsources, hresult]
      rfl
    · rintro file m rfl
      exact message_of_parsed hsources (List.mem_append_right before List.mem_cons_self) hs

/-- A file that is reached and has a path that no document can hold stops the extraction, although
it can be parsed by itself. -/
lemma parseFolder_eq_unwritable {project : Path} (before after : List SourceFile)
    (hsources : collect d project [] = .ok (before ++ s :: after))
    (hparsed : ∀ b ∈ before ++ [s], ∃ out, b.parsed d f r = .ok out) (hs : ¬ s.Writable) :
    (parseFolder d f (.inl r) project).result = .error .unwritablePath := by
  rw [parseFolder_result r hsources,
    elementsOfSources_eq_unwritable after (exists_element_of_parsed hparsed) hs]
  rfl

/-- If the result of a project follows from those of its files, no path stands in the way.

**Proof sketch.** Otherwise the result would be a path that cannot be written, though either all
files can be parsed and there is a document, or a file that cannot be is named. Neither is this
error. -/
lemma FollowsFiles.reachedWritable {project : Path}
    (h : FollowsFiles d f r sources (parseFolder d f (.inl r) project).result)
    (hsources : collect d project [] = .ok sources) : ReachedWritable d f r sources := by
  rintro before s after rfl hparsed
  by_contra hs
  rw [parseFolder_eq_unwritable before after hsources hparsed hs] at h
  -- Either all files can be parsed and there is a document, or a first file stops the extraction.
  by_cases hall : ∀ b ∈ before ++ s :: after, ∃ out, b.parsed d f r = .ok out
  · obtain ⟨trees, out, -, -, hok⟩ := h.complete hall
    cases hok
  · obtain ⟨first, b, rest, hsplit, hfirst, hb⟩ := exists_first_not hall
    cases hparsedb : b.parsed d f r with
    | ok out => exact hb ⟨out, hparsedb⟩
    | error e =>
      obtain ⟨herror, -⟩ := h.stopped first b rest e hsplit hfirst hparsedb
      obtain rfl : ExtractionError.unwritablePath = e := Except.error.inj herror
      exact parsed_ne_unwritable hparsedb

/-- **The result of a project follows from those of its files if and only if documents can hold the
paths of all files that are reached.**

**Proof sketch.** A file that is reached with another path stops the extraction with an error that
is none of a file. Without such a file the elements of all files are put together, and what is put
together can be written. -/
theorem parseFolder_followsFiles_iff (d : Disk) (f : NodeFilter) (r : Representation)
    (project : Path) (sources : List SourceFile) (hsources : collect d project [] = .ok sources) :
    FollowsFiles d f r sources (parseFolder d f (.inl r) project).result ↔
      ReachedWritable d f r sources :=
  ⟨fun h => h.reachedWritable hsources, fun h => h.followsFiles hsources⟩

end

/-- The result of the mixed project follows from those of its three files, whose paths are plain. -/
theorem parseFolder_followsFiles_mixedProject : ∃ sources : List SourceFile,
    collect mixedDisk ⟨.here, ["p"]⟩ [] = .ok sources ∧ sources.length = 3 ∧
    FollowsFiles mixedDisk ⟨[], [], []⟩ .json sources
      (parseFolder mixedDisk ⟨[], [], []⟩ (.inl .json) ⟨.here, ["p"]⟩).result := by
  have hentry : mixedDisk.entry? ⟨.here, ["p"]⟩ = some (.folder mixedProject) := rfl
  have hsources := collect_eq hentry []
  have hlength : (((FileTree.folder mixedProject).files.map (·.1)).filter
      (isCollected [])).length = 3 := by decide +kernel
  have hplain : ∀ parts ∈ (FileTree.folder mixedProject).files.map (·.1),
      (Path.mk .here parts).text.toList.all Xml.isChar = true := by decide +kernel
  refine ⟨_, hsources, ?_, (parseFolder_followsFiles_iff mixedDisk ⟨[], [], []⟩ .json
    ⟨.here, ["p"]⟩ _ hsources).2 ?_⟩
  · rw [List.length_map, sourceParts, List.length_mergeSort, hlength]
  · intro before s after hsplit _
    have hs : s ∈ before ++ s :: after := List.mem_append_right before List.mem_cons_self
    rw [← hsplit] at hs
    obtain ⟨parts, hparts, rfl⟩ := List.mem_map.1 hs
    have hmem := (List.mem_filter.1 (List.mem_mergeSort.1 hparts)).1
    exact List.all_eq_true.1 (hplain parts hmem)

/-- A project of one empty file, in whose name there is a character that no document can hold. -/
def controlProject : List (String × FileTree) := [("\u0001.java", .file .empty)]

/-- A disk that holds the project. -/
def controlDisk : Disk := ⟨.folder controlProject, []⟩

/-- The control project cannot be parsed, although its only file can by itself. -/
theorem parseFolder_controlProject : ∃ sources,
    collect controlDisk ⟨.here, []⟩ [] = .ok sources ∧
    sources.map (·.relativePath) = ["\u0001.java"] ∧
    (∀ s ∈ sources, ∃ out, s.parsed controlDisk ⟨[], [], []⟩ .xml = .ok out) ∧
    (parseFolder controlDisk ⟨[], [], []⟩ (.inl .xml) ⟨.here, []⟩).result =
      .error .unwritablePath := by
  have hentry : controlDisk.entry? ⟨.here, []⟩ = some (.folder controlProject) := rfl
  have hsources := collect_eq hentry []
  have hplaces : sourceParts [] (.folder controlProject) = [["\u0001.java"]] :=
    (List.mergeSort_of_pairwise (by decide +kernel)).trans (by decide +kernel)
  rw [hplaces, List.map_singleton] at hsources
  have hparsed : ∀ s ∈ [SourceFile.ofParts ⟨.root, []⟩ ["\u0001.java"]],
      ∃ out, s.parsed controlDisk ⟨[], [], []⟩ .xml = .ok out := by
    refine List.forall_mem_singleton.2 (exists_parsed_iff.2 ?_)
    exact ⟨_, elementOfFile_of_empty (by decide +kernel)⟩
  have hunwritable : ¬ (SourceFile.ofParts ⟨.root, []⟩ ["\u0001.java"]).Writable := fun h =>
    absurd (List.all_eq_true.2 h) (by decide +kernel)
  exact ⟨_, hsources, by decide +kernel, hparsed,
    parseFolder_eq_unwritable [] [] hsources hparsed hunwritable⟩

end JavaTree
