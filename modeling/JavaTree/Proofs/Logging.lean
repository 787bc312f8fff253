import JavaTree.Proofs.Collection
import JavaTree.Proofs.DiskChanges
import JavaTree.Proofs.Execution
import JavaTree.Proofs.Extraction

/-!
# What logging has to do with results

Before the program reads its arguments, it makes the folder for the log and opens the log.  Folders
that are made are empty, and a log is no source file.  So two runs that log in different ways come
to the same result, unless the arguments name a path that is there in one of the runs only, because
making the folder has made it, or name the log itself.

## Main definitions

* `Disk.DifferByLogs` — two disks that hold the same files but for their logs.
* `Disk.AgreeOn` — a path that leads to something on both of two disks or on neither, but to no log.
* `Request.paths` — the paths that a request names.

## Main results

* `isEntryName_logName`, `isSource_logName` — the log is a file in its folder, and no source file.
* `Disk.DifferByLogs.content?_eq`, `Disk.DifferByLogs.collect_eq` — the same is read on both disks.
* `Disk.DifferByLogs.execute_eq` — arguments are carried out in the same way on both disks.
* `start_independent` — how the environment has to do with what a run comes to.
-/

namespace JavaTree

/-! ## The names of logs -/

section

variable (n : Nat) (m : Moment)

/-- A number is written without a slash. -/
lemma slash_not_mem_toString : '/' ∉ (toString n).toList := by
  have hdigits : (toString n).toList = Nat.toDigits 10 n := Nat.toList_repr
  rw [hdigits]
  intro hmem
  exact absurd (Nat.isDigit_of_mem_toDigits (by decide) (by decide) hmem) (by decide)

/-- Two digits are written without a slash. -/
lemma slash_not_mem_twoDigits : '/' ∉ (twoDigits n).toList := by
  have hdigits := slash_not_mem_toString n
  unfold twoDigits
  split
  · simpa [String.toList_append] using hdigits
  · exact hdigits

/-- **A log is a file in its folder**: its name is a single part of a path.

**Proof sketch.** The name has more than three characters, so it is none of the special names, and
neither its words nor the numbers in it have a slash. -/
theorem isEntryName_logName : FileTree.IsEntryName (logName m) := by
  have hlength : 4 ≤ (logName m).toList.length := by
    have hsuffix : ".log".toList.length = 4 := by decide
    rw [logName, String.toList_append, List.length_append]
    omega
  have hne : ∀ s : String, s.toList.length < 4 → logName m ≠ s := by
    rintro s hs rfl
    omega
  have hslash : '/' ∉ (logName m).toList := by
    have hyear := slash_not_mem_toString m.year
    have hrest := slash_not_mem_twoDigits
    simp only [logName, Moment.stamp, String.toList_append, List.mem_append, not_or]
    refine ⟨⟨by decide, ?_⟩, by decide⟩
    simp only [hyear, hrest, not_false_eq_true, true_and, and_true]
    decide
  exact FileTree.isEntryName_iff.2 ⟨hne _ (by decide), hne _ (by decide), hslash, hne _ (by decide)⟩

/-- **A log is no source file.**

**Proof sketch.** The suffix of the name is what comes behind its last point, if anything stands
before it, and that is no suffix of source files. -/
theorem isSource_logName : isSource (logName m) = false := by
  have hsuffix : Path.suffixOf (logName m).toList = [] ∨
      Path.suffixOf (logName m).toList = ['.', 'l', 'o', 'g'] := by
    rw [logName, String.toList_append]
    generalize ("astextractor_" ++ m.stamp).toList = cs
    have hspan : (cs ++ ".log".toList).reverse.span (· != '.') =
        (['g', 'o', 'l'], '.' :: cs.reverse) := by
      rw [List.reverse_append]
      rfl
    unfold Path.suffixOf
    rw [hspan]
    simp only
    split
    · exact .inl rfl
    · exact .inr rfl
  rcases hsuffix with h | h <;> rw [isSource, h] <;> decide +kernel

end

/-! ## What is read on two disks -/

namespace Disk

/-- Two disks that hold the same files but for a log on each of them, which is no source file. -/
structure DifferByLogs (d₁ d₂ : Disk) (log₁ log₂ : List String) : Prop where
  current_eq : d₁.current = d₂.current
  wellFormed_left : d₁.top.WellFormed
  wellFormed_right : d₂.top.WellFormed
  isSource_left : isSource (log₁.getLast?.getD "") = false
  isSource_right : isSource (log₂.getLast?.getD "") = false
  file_iff : ∀ place content, place ≠ log₁ → place ≠ log₂ →
    (d₁.top.get? place = some (.file content) ↔ d₂.top.get? place = some (.file content))

/-- A path that leads to something on both of two disks or on neither of them, but to none of their
logs. -/
structure AgreeOn (d₁ d₂ : Disk) (log₁ log₂ : List String) (p : Path) : Prop where
  holds_eq : d₁.holds p = d₂.holds p
  ne_left : d₁.place p ≠ .ok log₁
  ne_right : d₂.place p ≠ .ok log₂

section

variable {d d₁ d₂ : Disk} {log₁ log₂ place parts : List String} {p : Path} {content : ByteArray}
  {es fs : List (String × FileTree)}

/-- **What has grown from one disk differs by the logs.** -/
theorem Grown.differByLogs (h₁ : d.Grown log₁ d₁) (h₂ : d.Grown log₂ d₂)
    (hlog₁ : isSource (log₁.getLast?.getD "") = false)
    (hlog₂ : isSource (log₂.getLast?.getD "") = false) : d₁.DifferByLogs d₂ log₁ log₂ := by
  refine ⟨h₁.current_eq.trans h₂.current_eq.symm, h₁.wellFormed, h₂.wellFormed, hlog₁, hlog₂, ?_⟩
  intro place content hne₁ hne₂
  rw [← FileTree.outlineAt_eq_file_iff, (h₁.grows place).eq_file_iff hne₁,
    ← (h₂.grows place).eq_file_iff hne₂, FileTree.outlineAt_eq_file_iff]

namespace DifferByLogs

variable (h : d₁.DifferByLogs d₂ log₁ log₂)

include h

/-- Which disk comes first does not matter. -/
lemma symm : d₂.DifferByLogs d₁ log₂ log₁ :=
  ⟨h.current_eq.symm, h.wellFormed_right, h.wellFormed_left, h.isSource_right, h.isSource_left,
    fun place content hne₂ hne₁ => (h.file_iff place content hne₁ hne₂).symm⟩

/-- Disks that differ by their logs have the same current folder. -/
lemma currentPath_eq : d₁.currentPath = d₂.currentPath := congrArg (Path.mk .root) h.current_eq

/-- Where there is something on both disks, it is the same file, or a folder.

**Proof sketch.** There is nothing on either disk, or a folder on both, or a file, which is the same
on both since the place is no log. -/
lemma outlineAt_eq (hne₁ : place ≠ log₁) (hne₂ : place ≠ log₂)
    (hsome : (d₁.top.outlineAt place).isSome = (d₂.top.outlineAt place).isSome) :
    d₁.top.outlineAt place = d₂.top.outlineAt place := by
  have hfile : ∀ content, d₁.top.outlineAt place = some (.file content) ↔
      d₂.top.outlineAt place = some (.file content) := fun content => by
    rw [FileTree.outlineAt_eq_file_iff, FileTree.outlineAt_eq_file_iff,
      h.file_iff place content hne₁ hne₂]
  rcases d₁.top.outlineAt_cases place with hnone | hfolder | ⟨content, hcontent⟩
  · rw [hnone] at hsome ⊢
    exact (Option.not_isSome_iff_eq_none.1 (by simp [← hsome])).symm
  · rcases d₂.top.outlineAt_cases place with hnone' | hfolder' | ⟨content, hcontent⟩
    · rw [hfolder, hnone'] at hsome
      cases hsome
    · rw [hfolder, hfolder']
    · rw [(hfile content).2 hcontent] at hfolder
      cases hfolder
  · rw [hcontent, (hfile content).1 hcontent]

/-- **A path on which the disks agree leads to the same file, to a folder, or to nothing.**

**Proof sketch.** Disks that agree on a path hold something there or neither does. If they do, the
path leads to the same place on both, and there to the same by `outlineAt_eq`. -/
theorem outline_eq (hp : d₁.AgreeOn d₂ log₁ log₂ p) :
    (Disk.entry? d₁ p).map FileTree.outline = (Disk.entry? d₂ p).map FileTree.outline := by
  have hholds := hp.holds_eq
  cases hp₁ : d₁.entry? p with
  | none =>
    rw [holds_eq_false_iff.2 hp₁, eq_comm, holds_eq_false_iff] at hholds
    rw [hholds]
  | some t =>
    cases hp₂ : d₂.entry? p with
    | none =>
      rw [holds_of_eq_some hp₁, holds_eq_false_iff.2 hp₂] at hholds
      cases hholds
    | some u =>
      obtain ⟨place, hplace₁, hget₁⟩ := exists_place_of_entry? hp₁
      obtain ⟨place', hplace₂, hget₂⟩ := exists_place_of_entry? hp₂
      obtain rfl := place_unique h.current_eq hplace₁ hplace₂
      have hne₁ : place ≠ log₁ := fun heq => hp.ne_left (heq ▸ hplace₁)
      have hne₂ : place ≠ log₂ := fun heq => hp.ne_right (heq ▸ hplace₂)
      have heq := h.outlineAt_eq hne₁ hne₂ (by simp [FileTree.outlineAt, hget₁, hget₂])
      rwa [FileTree.outlineAt, FileTree.outlineAt, hget₁, hget₂] at heq

/-- **The same file is read on both disks**, if any. -/
theorem content?_eq (hp : d₁.AgreeOn d₂ log₁ log₂ p) : d₁.content? p = d₂.content? p := by
  ext content
  rw [content?_eq_some_iff, content?_eq_some_iff, ← FileTree.map_outline_eq_file_iff,
    h.outline_eq hp, FileTree.map_outline_eq_file_iff]

/-- A project is the same folder on both disks, but for folders and logs in it. -/
lemma exists_folder (hp : d₁.AgreeOn d₂ log₁ log₂ p) (hes : d₁.entry? p = some (.folder es)) :
    ∃ place fs, d₁.place p = .ok place ∧ d₁.top.get? place = some (.folder es) ∧
      d₂.entry? p = some (.folder fs) ∧ d₂.place p = .ok place ∧
      d₂.top.get? place = some (.folder fs) := by
  obtain ⟨fs, hfs⟩ : ∃ fs, d₂.entry? p = some (.folder fs) := by
    rw [← FileTree.map_outline_eq_folder_iff, ← h.outline_eq hp, hes]
    rfl
  obtain ⟨place, hplace₁, hget₁⟩ := exists_place_of_entry? hes
  obtain ⟨place', hplace₂, hget₂⟩ := exists_place_of_entry? hfs
  obtain rfl := place_unique h.current_eq hplace₁ hplace₂
  exact ⟨place, fs, hplace₁, hget₁, hfs, hplace₂, hget₂⟩

/-- Below a folder, a source file of one disk is a source file of the other one, and it holds the
same.

**Proof sketch.** A source file is no log, whatever folder it is in, so it is the same on both
disks. -/
lemma exists_file_of_isCollectedAt (hes : d₁.top.get? place = some (.folder es))
    (hfs : d₂.top.get? place = some (.folder fs)) (hparts : IsCollectedAt [] (.folder es) parts) :
    IsCollectedAt [] (.folder fs) parts ∧ ∃ content,
      d₁.top.get? (place ++ parts) = some (.file content) ∧
      d₂.top.get? (place ++ parts) = some (.file content) := by
  obtain ⟨content, hfile⟩ := hparts.exists_file
  have hne : parts ≠ [] := by
    rintro rfl
    cases hfile
  have hsource : isSource ((place ++ parts).getLast?.getD "") = true := by
    rw [List.getLast?_append_of_ne_nil _ hne]
    exact beq_iff_eq.2 hparts.suffix_eq
  have hne_log : ∀ log : List String, isSource (log.getLast?.getD "") = false →
      place ++ parts ≠ log := by
    rintro log hlog rfl
    rw [hsource] at hlog
    cases hlog
  have hfile₁ : d₁.top.get? (place ++ parts) = some (.file content) := by
    rw [FileTree.get?_append, hes]
    exact hfile
  have hfile₂ : d₂.top.get? (place ++ parts) = some (.file content) :=
    (h.file_iff _ _ (hne_log _ h.isSource_left) (hne_log _ h.isSource_right)).1 hfile₁
  have hbelow : (FileTree.folder fs).get? parts = some (.file content) := by
    rwa [FileTree.get?_append, hfs] at hfile₂
  exact ⟨⟨⟨content, hbelow⟩, hparts.suffix_eq, hparts.not_excluded⟩, content, hfile₁, hfile₂⟩

/-- The same source files are below a folder on both disks. -/
lemma sourceParts_eq (hes : d₁.top.get? place = some (.folder es))
    (hfs : d₂.top.get? place = some (.folder fs)) :
    sourceParts [] (.folder es) = sourceParts [] (.folder fs) := by
  have hwell₁ := h.wellFormed_left.of_get? hes
  have hwell₂ := h.wellFormed_right.of_get? hfs
  have hperm : (sourceParts [] (.folder es)).Perm (sourceParts [] (.folder fs)) := by
    refine (List.perm_ext_iff_of_nodup (nodup_sourceParts hwell₁) (nodup_sourceParts hwell₂)).2 ?_
    intro parts
    rw [mem_sourceParts_iff hwell₁, mem_sourceParts_iff hwell₂]
    exact ⟨fun hparts => (h.exists_file_of_isCollectedAt hes hfs hparts).1,
      fun hparts => (h.symm.exists_file_of_isCollectedAt hfs hes hparts).1⟩
  exact hperm.eq_of_pairwise (fun _ _ _ _ => le_antisymm) (pairwise_sourceParts_le [] _)
    (pairwise_sourceParts_le [] _)

end DifferByLogs

end

end Disk

/-! ## Projects on two disks -/

section

variable {d d₁ d₂ : Disk} {log₁ log₂ place parts : List String} {project path : Path}
  {content : ByteArray} {sources : List SourceFile}

/-- No source files can be collected where nothing is. -/
lemma collect_of_missing (h : d.entry? project = none) (excluded : List String) :
    collect d project excluded = .error (.missing (project.under d.currentPath)) := by
  simp only [collect, d.entry?_under, h]

/-- No source files can be collected where a file is. -/
lemma collect_of_file (h : d.entry? project = some (.file content)) (excluded : List String) :
    collect d project excluded = .error (.notFolder (project.under d.currentPath)) := by
  simp only [collect, d.entry?_under, h]

/-- A file below a path is found. -/
lemma content?_ofParts (hplace : d.place project = .ok place)
    (hfile : d.top.get? (place ++ parts) = some (.file content)) (hparts : ∀ q ∈ parts, q ≠ "..") :
    d.content? (SourceFile.ofParts (project.under d.currentPath) parts).path = some content := by
  have habsolute : (project.under d.currentPath).isAbsolute = true :=
    Path.isAbsolute_under project rfl
  have hunder : (SourceFile.ofParts (project.under d.currentPath) parts).path.under d.currentPath =
      (SourceFile.ofParts (project.under d.currentPath) parts).path :=
    Path.under_of_isAbsolute habsolute
  have hway : d.place (SourceFile.ofParts (project.under d.currentPath) parts).path =
      .ok (place ++ parts) := by
    rw [Disk.place, hunder]
    exact (Disk.follow_append hplace parts).trans (Disk.follow_of_get? hfile hparts)
  rw [Disk.content?_eq_some_iff, Disk.entry?, hway]
  exact hfile

/-- **The same source files are collected from both disks**, or the same stands in the way.

**Proof sketch.** The path leads to nothing on both disks, or to a file, or to folders with the same
source files by `sourceParts_eq`. -/
theorem Disk.DifferByLogs.collect_eq (h : d₁.DifferByLogs d₂ log₁ log₂)
    (hp : d₁.AgreeOn d₂ log₁ log₂ project) : collect d₁ project [] = collect d₂ project [] := by
  have houtline := h.outline_eq hp
  cases hp₁ : d₁.entry? project with
  | none =>
    rw [hp₁, Option.map_none, eq_comm, Option.map_eq_none_iff] at houtline
    rw [collect_of_missing hp₁, collect_of_missing houtline, h.currentPath_eq]
  | some t =>
    cases t with
    | file content =>
      have hp₂ : d₂.entry? project = some (.file content) := by
        rw [← FileTree.map_outline_eq_file_iff, ← houtline, hp₁]
        rfl
      rw [collect_of_file hp₁, collect_of_file hp₂, h.currentPath_eq]
    | folder es =>
      obtain ⟨place, fs, -, hes, hp₂, -, hfs⟩ := h.exists_folder hp hp₁
      rw [JavaTree.collect_eq hp₁, JavaTree.collect_eq hp₂, h.currentPath_eq,
        h.sourceParts_eq hes hfs]

/-- What is collected holds the same on both disks. -/
lemma Disk.DifferByLogs.content?_eq_of_collect (h : d₁.DifferByLogs d₂ log₁ log₂)
    (hp : d₁.AgreeOn d₂ log₁ log₂ project) (hsources : collect d₁ project [] = .ok sources) :
    ∀ s ∈ sources, d₁.content? s.path = d₂.content? s.path := by
  obtain ⟨es, hp₁, rfl⟩ := exists_of_collect_eq_ok hsources
  obtain ⟨place, fs, hplace₁, hes, -, hplace₂, hfs⟩ := h.exists_folder hp hp₁
  have hwell := h.wellFormed_left.of_get? hes
  refine List.forall_mem_map.2 fun parts hparts => ?_
  have hcollected := (mem_sourceParts_iff hwell).1 hparts
  obtain ⟨_, hbelow⟩ := hcollected.exists_file
  have hnames : ∀ q ∈ parts, q ≠ ".." := fun q hq =>
    (FileTree.isEntryName_of_get? hwell hbelow q hq).ne_upward
  obtain ⟨-, content, hfile₁, hfile₂⟩ := h.exists_file_of_isCollectedAt hes hfs hcollected
  rw [content?_ofParts hplace₁ hfile₁ hnames, h.currentPath_eq,
    content?_ofParts hplace₂ hfile₂ hnames]

end

/-! ## Requests on two disks -/

section

variable {d d₁ d₂ : Disk} {log₁ log₂ : List String} {path : Path} {sources : List SourceFile}
  {r : Request} {arguments : List String}

/-- The element of a file depends on its content alone. -/
lemma elementOfFile_congr (h : d₁.content? path = d₂.content? path) (f : NodeFilter)
    (name : String) : elementOfFile d₁ f name path = elementOfFile d₂ f name path := by
  rw [elementOfFile, elementOfFile, readSource, readSource, h]

/-- The elements of source files depend on their contents alone. -/
lemma elementsOfSources_congr (h : ∀ s ∈ sources, d₁.content? s.path = d₂.content? s.path)
    (f : NodeFilter) : elementsOfSources d₁ f sources = elementsOfSources d₂ f sources := by
  induction sources with
  | nil => rfl
  | cons s ss ih =>
    obtain ⟨hs, hss⟩ := List.forall_mem_cons.1 h
    rw [elementsOfSources, elementsOfSources, ih hss, elementOfSource, elementOfSource,
      elementOfFile_congr hs]

/-- The filter depends on the content of the properties file alone. -/
lemma loadFilter_congr (h : d₁.content? path = d₂.content? path) :
    loadFilter d₁ (some path) = loadFilter d₂ (some path) := by
  rw [loadFilter, loadFilter, h]

namespace Disk.DifferByLogs

variable (h : d₁.DifferByLogs d₂ log₁ log₂)

include h

/-- A project is parsed alike on disks that agree on it. -/
lemma parseFolder_eq (hp : d₁.AgreeOn d₂ log₁ log₂ path) (f : NodeFilter) (asked : Asked) :
    parseFolder d₁ f asked path = parseFolder d₂ f asked path := by
  have hcollect := h.collect_eq hp
  rw [parseFolder, parseFolder, ← hcollect, h.currentPath_eq]
  cases hsources : collect d₁ path [] with
  | error e => rfl
  | ok sources =>
    simp only [elementsOfSources_congr (h.content?_eq_of_collect hp hsources)]

/-- **What is extracted is the same on both disks.** -/
theorem extract_eq (hp : d₁.AgreeOn d₂ log₁ log₂ r.path) (f : NodeFilter) :
    extract d₁ f r = extract d₂ f r := by
  rw [extract, extract]
  cases r.target with
  | project => exact h.parseFolder_eq hp f _
  | file => simp only [parseFile, elementOfFile_congr (h.content?_eq hp)]

end Disk.DifferByLogs

/-- The paths that a request names. -/
def Request.paths (r : Request) : List Path := r.path :: r.properties.toList

/-- **Arguments are carried out in the same way on both disks** if these agree on all paths that are
named. -/
theorem Disk.DifferByLogs.execute_eq (h : d₁.DifferByLogs d₂ log₁ log₂) (arguments : List String)
    (hpaths : ∀ r, Request.parse arguments = .ok r → ∀ p ∈ r.paths, d₁.AgreeOn d₂ log₁ log₂ p) :
    execute d₁ (extractor d₁) arguments = execute d₂ (extractor d₂) arguments := by
  rw [execute, execute]
  cases hread : readArguments arguments with
  | error e => rfl
  | ok r =>
    obtain ⟨hpath, hproperties⟩ :=
      List.forall_mem_cons.1 (hpaths r (readArguments_eq_ok_iff.1 hread))
    have hload : loadFilter d₁ r.properties = loadFilter d₂ r.properties := by
      cases hprops : r.properties with
      | none => rfl
      | some path =>
        rw [hprops] at hproperties
        exact loadFilter_congr (h.content?_eq (hproperties path (List.mem_singleton_self path)))
    simp only [fulfil, hload, extractor, h.extract_eq hpath]

/-- Nothing is extracted where a path leads nowhere. -/
lemma exists_extract_eq_error (hmissing : d.holds r.path = false) (f : NodeFilter) :
    ∃ e, (extract d f r).result = .error e := by
  have hnone := Disk.holds_eq_false_iff.1 hmissing
  have hcontent : d.content? r.path = none := by rw [Disk.content?, hnone]
  unfold extract
  cases r.target with
  | project =>
    simp only [parseFolder, collect_of_missing hnone]
    exact ⟨_, rfl⟩
  | file =>
    simp only [parseFile, elementOfFile, readSource, hcontent]
    exact ⟨_, rfl⟩

/-- **A request whose path leads nowhere fails**, and nothing is printed.

**Proof sketch.** The run takes one of the courses of `Course`. It has been given its arguments, and
the extraction has no result, so there either is no filter or the extraction fails. -/
theorem execute_of_missing (hread : Request.parse arguments = .ok r)
    (hmissing : d.holds r.path = false) :
    (execute d (extractor d) arguments).status = 1 ∧
      (execute d (extractor d) arguments).output = "" := by
  have hcourse := execute_course d (extractor d) arguments
  generalize execute d (extractor d) arguments = run at hcourse
  have hargs := readArguments_eq_ok_iff.2 hread
  cases hcourse with
  | refused hrefused =>
    rw [hargs] at hrefused
    cases hrefused
  | noFilter => exact ⟨rfl, rfl⟩
  | failed => exact ⟨rfl, rfl⟩
  | done hread' _ hdone =>
    rw [hargs] at hread'
    obtain rfl := Except.ok.inj hread'
    obtain ⟨e, he⟩ := exists_extract_eq_error hmissing _
    rw [extractor, he] at hdone
    cases hdone

end

/-! ## Starts of the program -/

section

variable {d disk : Disk} {env : Environment} {e : Disk → Extractor} {arguments : List String}
  {moment : Moment} {setup : Setup} {run : Run}

/-- What a start of the program does before it reads its arguments.

**Proof sketch.** The folder for the log is made and the log is opened; both change the disk only as
far as they have to, and the run takes place on the disk that comes out. -/
lemma exists_of_start_eq_ran (hd : d.Sound)
    (h : (start d env e arguments moment).1 = .ran setup run disk) : ∃ reached content,
      disk.place setup.log = .ok (reached ++ [logName moment]) ∧
      disk.top.get? (reached ++ [logName moment]) = some (.file content) ∧
      d.Grown (reached ++ [logName moment]) disk ∧ run = execute disk (e disk) arguments := by
  simp only [start, startIn] at h
  split at h
  · cases h
  · rename_i withFolder hfolder
    split at h
    · cases h
    · rename_i withLog hlog
      split at h
      · cases h
      · obtain ⟨rfl, rfl, rfl⟩ := Outcome.ran.inj h
        have hparts := Path.isPart_of_mem_ofString
        have hmade := fun file => Disk.Grown.of_makeFolder hd (hparts _) hfolder file
        obtain ⟨reached, content, hplace, hget, hopened⟩ :=
          Disk.exists_grown_of_openFile? ((hmade []).sound hd) (isEntryName_logName moment) hlog
        exact ⟨reached, content, hplace, hget, (hmade _).trans hopened, rfl⟩

end

/-- **What logging has to do with results.**  Two runs that get to their arguments come to the same:
status, output and records, wherever they log, whatever they show and whenever they take place, if
each path that is named is there in both or in none of them and does not lead to the log.  What was
there before is there in both of them.  What is written to a log does not matter to a run that does
not name it.  If the path of a request is not there when the log is open, then the run fails.

**Proof sketch.** Both disks have grown from the same one by a folder and a log, so they differ by
their logs, and so does the disk whose log has been written to. Runs on such disks come to the same
if they agree on the paths that are named. -/
theorem start_independent (d : Disk) (hd : d.Sound) (env₁ env₂ : Environment)
    (arguments : List String) (moment₁ moment₂ : Moment) (setup₁ setup₂ : Setup) (run₁ run₂ : Run)
    (disk₁ disk₂ : Disk)
    (h₁ : (start d env₁ extractor arguments moment₁).1 = .ran setup₁ run₁ disk₁)
    (h₂ : (start d env₂ extractor arguments moment₂).1 = .ran setup₂ run₂ disk₂) :
    ((∀ r, Request.parse arguments = .ok r → ∀ p ∈ r.paths,
        disk₁.holds p = disk₂.holds p ∧
        disk₁.place p ≠ disk₁.place setup₁.log ∧ disk₂.place p ≠ disk₂.place setup₂.log) →
      run₁ = run₂) ∧
    (∀ p, d.holds p = true → disk₁.holds p = true ∧ disk₂.holds p = true) ∧
    ((∀ r, Request.parse arguments = .ok r → ∀ p ∈ r.paths,
        disk₁.place p ≠ disk₁.place setup₁.log) →
      ∀ content, execute (disk₁.overwrite setup₁.log content)
        (extractor (disk₁.overwrite setup₁.log content)) arguments = run₁) ∧
    ∀ r, Request.parse arguments = .ok r → disk₁.holds r.path = false →
      run₁.status = 1 ∧ run₁.output = "" := by
  obtain ⟨reached₁, content₁, hplace₁, hget₁, hgrown₁, rfl⟩ := exists_of_start_eq_ran hd h₁
  obtain ⟨reached₂, content₂, hplace₂, -, hgrown₂, rfl⟩ := exists_of_start_eq_ran hd h₂
  have hsource : ∀ (reached : List String) (moment : Moment),
      isSource ((reached ++ [logName moment]).getLast?.getD "") = false := by
    intro reached moment
    rw [List.getLast?_concat]
    exact isSource_logName moment
  refine ⟨fun hpaths => ?_, fun p hp => ⟨hgrown₁.holds hp, hgrown₂.holds hp⟩, ?_,
    fun r hread hmissing => execute_of_missing hread hmissing⟩
  · refine (hgrown₁.differByLogs hgrown₂ (hsource _ _) (hsource _ _)).execute_eq arguments ?_
    intro r hread p hp
    obtain ⟨hholds, hne₁, hne₂⟩ := hpaths r hread p hp
    rw [hplace₁] at hne₁
    rw [hplace₂] at hne₂
    exact ⟨hholds, hne₁, hne₂⟩
  · intro hpaths content
    obtain ⟨hthere, hback⟩ := Disk.grown_overwrite (hgrown₁.sound hd) hplace₁ hget₁ content
    have hstays := Disk.Grown.refl (hgrown₁.sound hd) (reached₁ ++ [logName moment₁])
    refine (hthere.differByLogs hstays (hsource _ _) (hsource _ _)).execute_eq arguments ?_
    intro r hread p hp
    have hne := hpaths r hread p hp
    rw [hplace₁] at hne
    refine ⟨Bool.eq_iff_iff.2 ⟨hback.holds, hthere.holds⟩, fun hlog => ?_, hne⟩
    exact hne (hback.place hlog)

/-- A file of a project. -/
def sharedFile : String × FileTree := ("A.java", .file "class A {}".toByteArray)

/-- A disk with the project. -/
def sharedDisk : Disk := ⟨.folder [("p", .folder [sharedFile])], []⟩

/-- The disk when there is a log beside the project. -/
def besideDisk : Disk := ⟨.folder [("p", .folder [sharedFile]),
  ("logs", .folder [("astextractor_19700101_000000.log", .file .empty)])], []⟩

/-- The disk when there is a log inside the project. -/
def insideDisk : Disk := ⟨.folder [("p", .folder [sharedFile,
  ("log", .folder [("astextractor_20240229_235959.log", .file .empty)])])], []⟩

/-- The project is parsed in the same way with the log beside it and with the log inside it. -/
theorem start_independent_sharedDisk : sharedDisk.Sound ∧ ∃ setup₁ setup₂ run,
    (start sharedDisk [] extractor ["-project=p"]).1 = .ran setup₁ run besideDisk ∧
    (start sharedDisk [(folderVariable, "p/log"), (levelVariable, "error")] extractor
      ["-project=p"] ⟨2024, 2, 29, 23, 59, 59⟩).1 = .ran setup₂ run insideDisk := by
  have hsound : sharedDisk.Sound := ⟨by decide +kernel, rfl⟩
  have h₁ : (start sharedDisk [] extractor ["-project=p"]).1 =
      .ran ⟨⟨.here, ["logs"]⟩, ⟨.here, ["logs", "astextractor_19700101_000000.log"]⟩, ⟨20⟩⟩
        (execute besideDisk (extractor besideDisk) ["-project=p"]) besideDisk := rfl
  have h₂ : (start sharedDisk [(folderVariable, "p/log"), (levelVariable, "error")] extractor
      ["-project=p"] ⟨2024, 2, 29, 23, 59, 59⟩).1 =
      .ran ⟨⟨.here, ["p", "log"]⟩, ⟨.here, ["p", "log", "astextractor_20240229_235959.log"]⟩, ⟨40⟩⟩
        (execute insideDisk (extractor insideDisk) ["-project=p"]) insideDisk := rfl
  have hparse : Request.parse ["-project=p"] = .ok ⟨.project, ⟨.here, ["p"]⟩, none, .xml⟩ := rfl
  obtain ⟨hsame, -⟩ :=
    start_independent sharedDisk hsound [] _ ["-project=p"] {} _ _ _ _ _ _ _ h₁ h₂
  have hrun := hsame fun r hr p hp => by
    obtain rfl := Except.ok.inj (hparse.symm.trans hr)
    obtain rfl := List.mem_singleton.1 hp
    exact ⟨rfl, by decide +kernel, by decide +kernel⟩
  exact ⟨hsound, _, _, _, h₁, hrun ▸ h₂⟩

/-- A disk that holds nothing. -/
def emptyDisk : Disk := ⟨.folder [], []⟩

/-- The disk when there is a log in a folder. -/
def logDisk (folder : String) : Disk :=
  ⟨.folder [(folder, .folder [("astextractor_19700101_000000.log", .file .empty)])], []⟩

/-- A project that is not there before the run is there when the log is open, if it is the folder
for the log; the run then prints an empty project.  If the log goes elsewhere, the run fails. -/
theorem start_logFolder_parsed :
    emptyDisk.holds ⟨.here, ["logs"]⟩ = false ∧ ∃ setup₁ setup₂ run₁ run₂,
      (start emptyDisk [] extractor ["-project=logs"]).1 = .ran setup₁ run₁ (logDisk "logs") ∧
      (start emptyDisk [(folderVariable, "other")] extractor ["-project=logs"]).1 =
        .ran setup₂ run₂ (logDisk "other") ∧
      run₁.status = 0 ∧ run₁.output = "<folder/>\n" ∧ run₂.status = 1 ∧ run₂.output = "" := by
  have hparse : Request.parse ["-project=logs"] =
      .ok ⟨.project, ⟨.here, ["logs"]⟩, none, .xml⟩ := rfl
  have hfails := execute_of_missing (d := logDisk "other") hparse rfl
  have hplaces : sourceParts []
      (.folder [("astextractor_19700101_000000.log", .file .empty)]) = [] :=
    (List.mergeSort_of_pairwise (by decide +kernel)).trans (by decide +kernel)
  have hsources : collect (logDisk "logs") ⟨.here, ["logs"]⟩ [] = .ok [] := by
    have hentry : Disk.entry? (logDisk "logs") ⟨.here, ["logs"]⟩ =
        some (.folder [("astextractor_19700101_000000.log", .file .empty)]) := rfl
    rw [collect_eq hentry, hplaces, List.map_nil]
  have hshown : showElement (.inl .xml) (.parent "folder" []) = .ok "<folder/>" := by
    decide +kernel
  have hresult : (parseFolder (logDisk "logs") {} (.inl .xml) ⟨.here, ["logs"]⟩).result =
      .ok "<folder/>" := (parseFolder_result .xml hsources).trans hshown
  have hextract : (extractor (logDisk "logs") {} ⟨.project, ⟨.here, ["logs"]⟩, none, .xml⟩).result =
      .ok "<folder/>" := mapError_eq_ok_iff.2 hresult
  have hrun : execute (logDisk "logs") (extractor (logDisk "logs")) ["-project=logs"] =
      ⟨0, "<folder/>\n", recordsBefore (logDisk "logs") (extractor (logDisk "logs"))
        ⟨.project, ⟨.here, ["logs"]⟩, none, .xml⟩ {}⟩ :=
    (Course.done (readArguments_eq_ok_iff.2 hparse) rfl hextract).eq_execute.symm
  refine ⟨rfl, _, _, _, _, rfl, rfl, ?_, ?_, hfails⟩
  · exact congrArg Run.status hrun
  · exact congrArg Run.output hrun

end JavaTree
