import JavaTree.FileTree

/-!
# Collecting source files

All files below a folder whose names end in `.java`, in the order of their paths, part by part.

## Main definitions

* `SourceFile` — a source file.
* `CollectionError` — why nothing can be collected.
* `isSource`, `isExcluded` — which files are collected.
* `partsBefore` — the order of files.
* `collect` — the source files of a project.
-/

namespace JavaTree

/-- A source file: where it is, its path in the project, and its name. -/
structure SourceFile where
  path : Path
  relativePath : String
  filename : String
  deriving Repr, DecidableEq

/-- Why nothing can be collected. -/
inductive CollectionError
  | missing (project : Path)
  | notFolder (project : Path)
  deriving Repr, DecidableEq

namespace CollectionError

/-- The message for an error. -/
def message : CollectionError → String
  | missing project => "프로젝트 경로가 존재하지 않습니다: " ++ project.text
  | notFolder project => "프로젝트 경로가 디렉터리가 아닙니다: " ++ project.text

end CollectionError

/-- The end of the names of source files. -/
def sourceSuffix : String := ".java"

/-- Whether a name is that of a source file; capital letters do not matter. -/
def isSource (name : String) : Bool :=
  (String.ofList (Path.suffixOf name.toList)).toLower == sourceSuffix

/-- Whether one of the folders that lead to a file is excluded. -/
def isExcluded (excluded parts : List String) : Bool :=
  parts.dropLast.any fun p => excluded.contains p

/-- Whether a file is collected, by the parts that lead to it. -/
def isCollected (excluded parts : List String) : Bool :=
  isSource (parts.getLast?.getD "") && !isExcluded excluded parts

/-- Whether a path comes before another one or is the same, part by part. -/
def partsBefore : List String → List String → Bool
  | [], _ => true
  | _ :: _, [] => false
  | a :: as, b :: bs => if a == b then partsBefore as bs else decide (a < b)

/-- The parts that lead to the source files of a folder, in order. -/
def sourceParts (excluded : List String) (t : FileTree) : List (List String) :=
  ((t.files.map (·.1)).filter (isCollected excluded)).mergeSort partsBefore

/-- The source file in a project to which parts lead. -/
def SourceFile.ofParts (project : Path) (parts : List String) : SourceFile :=
  { path := ⟨project.anchor, project.parts ++ parts⟩
    relativePath := (Path.mk .here parts).text
    filename := parts.getLast?.getD "" }

/-- The source files of a project, outside the excluded folders. -/
def collect (d : Disk) (project : Path) (excluded : List String) :
    Except CollectionError (List SourceFile) :=
  let project := project.under d.currentPath
  match d.entry? project with
  | none => .error (.missing project)
  | some (.file _) => .error (.notFolder project)
  | some (.folder es) =>
    .ok ((sourceParts excluded (.folder es)).map (SourceFile.ofParts project))

end JavaTree
